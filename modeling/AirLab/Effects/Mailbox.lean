import Mathlib.Data.List.Forall2
import Mathlib.Order.WithBot
import AirLab.Effects.History

set_option relaxedAutoImplicit false
set_option autoImplicit false

/-!
# A mailbox of one place

A producer makes items one after another and now and then publishes the latest one, over what
the mailbox held before. A consumer sends what it finds in the mailbox, as often as it likes.
Nothing else is known about the order of these actions: items may be lost and may be sent more
than once. What is sent never goes back to an older item, and never back to the empty mailbox.

Items are numbered from 0 in the order they are made; the empty mailbox has the number `⊥`.

## Main definitions

* `Effects.MailEvent` — the actions of producer and consumer.
* `Effects.MailEvent.Orderly` — the latest item is published, the content is sent.
* `Effects.SentInOrder` — the sent contents carry numbers that never decrease.

## Main results

* `Effects.MailEvent.sentInOrder` — in an orderly history contents are sent in order.
* `Effects.SentInOrder.whole`, `Effects.SentInOrder.never_empty_again` — each is empty or an
  item made before, and after an item the empty mailbox is not sent again.
-/

namespace Effects

variable {E M : Type}

/-- What happens to the mailbox. -/
inductive MailEvent (M : Type)
  | produce (m : M)
  | publish (m : M)
  | send (m : M)

/-- The content `m` has the number `n`: it is the empty mailbox, or the item made as number `n`.
The items are listed with the latest one first. -/
def Numbered (empty : M) (items : List M) : WithBot ℕ → M → Prop
  | none, m => m = empty
  | some n, m => items.reverse[n]? = some m

/-- **The sent contents carry numbers that never decrease.** Each content is sent together with
how many items had been made by then, and its number is below that. The latest is listed
first. -/
def SentInOrder (empty : M) (items : List M) (sent : List (M × ℕ)) : Prop :=
  ∃ numbers : List (WithBot ℕ), numbers.Pairwise (fun later earlier => earlier ≤ later) ∧
    List.Forall₂ (fun s n => n < WithBot.some s.2 ∧ Numbered empty items n s.1) sent numbers

/-- One more item does not change the numbers. -/
lemma Numbered.cons {empty m : M} {items : List M} {n : WithBot ℕ}
    (hn : Numbered empty items n m) (item : M) : Numbered empty (item :: items) n m := by
  cases n with
  | bot => exact hn
  | coe n =>
    have hget : items.reverse[n]? = some m := hn
    have hlt : n < items.reverse.length := (List.getElem?_eq_some_iff.1 hget).1
    show (item :: items).reverse[n]? = some m
    rw [List.reverse_cons, List.getElem?_append_left hlt]
    exact hget

/-- A content with a number is an item among the first ones. -/
lemma Numbered.mem_take {empty m : M} {items : List M} {n k : ℕ}
    (hn : Numbered empty items (WithBot.some n) m) (hlt : n < k) : m ∈ items.reverse.take k := by
  have hget : items.reverse[n]? = some m := hn
  refine List.mem_of_getElem? (i := n) ?_
  rw [List.getElem?_take_of_lt hlt]
  exact hget

namespace SentInOrder

variable {empty : M} {items : List M} {sent : List (M × ℕ)}

/-- **Every sent content is empty or one of the items made before.** -/
theorem whole (hsent : SentInOrder empty items sent) (s : M × ℕ) (hs : s ∈ sent) :
    s.1 = empty ∨ s.1 ∈ items.reverse.take s.2 := by
  obtain ⟨numbers, -, hall⟩ := hsent
  induction hall with
  | nil => simp at hs
  | @cons s' n sent numbers hhead _ ih =>
    rcases List.mem_cons.1 hs with rfl | hs
    · obtain ⟨hlt, hn⟩ := hhead
      cases n with
      | bot => exact Or.inl hn
      | coe n => exact Or.inr (hn.mem_take (WithBot.coe_lt_coe.1 hlt))
    · exact ih hs

/-- **Once an item has been sent the empty mailbox is not sent again.** -/
theorem never_empty_again (hsent : SentInOrder empty items sent) (hitems : empty ∉ items) :
    sent.Pairwise fun later earlier => earlier.1 ≠ empty → later.1 ≠ empty := by
  obtain ⟨numbers, hmono, hall⟩ := hsent
  -- a content without a number is empty, a content with one is not
  have hbot : ∀ {n : WithBot ℕ} {m : M}, Numbered empty items n m → (m ≠ empty ↔ n ≠ ⊥) := by
    intro n m hn
    cases n with
    | bot =>
      have hm : m = empty := hn
      simp [hm]
    | coe n =>
      have hmem : m ∈ items := by
        have := hn.mem_take (Nat.lt_succ_self n)
        exact List.mem_reverse.1 (List.mem_of_mem_take this)
      refine ⟨fun _ => WithBot.coe_ne_bot, fun _ heq => hitems ?_⟩
      rw [← heq]
      exact hmem
  induction hall with
  | nil => exact List.Pairwise.nil
  | @cons s n sent numbers hhead hall ih =>
    obtain ⟨hle, hmono⟩ := List.pairwise_cons.1 hmono
    refine List.pairwise_cons.2 ⟨fun s' hs' hne => (hbot hhead.2).2 ?_, ih hmono⟩
    obtain ⟨i, hi, rfl⟩ := List.mem_iff_getElem.1 hs'
    have hn' := (List.forall₂_iff_get.1 hall).2 i hi ((List.Forall₂.length_eq hall) ▸ hi)
    have hne' := (hbot hn'.2).1 hne
    have hle' := hle _ (List.getElem_mem ((List.Forall₂.length_eq hall) ▸ hi))
    intro hnone
    rw [hnone, le_bot_iff] at hle'
    exact hne' hle'

end SentInOrder

namespace MailEvent

/-- The items made so far, the latest one first. -/
def produced : List (MailEvent M) → List M
  | [] => []
  | produce m :: past => m :: produced past
  | publish _ :: past => produced past
  | send _ :: past => produced past

/-- The content of the mailbox: what was published last. -/
def content (empty : M) : List (MailEvent M) → M
  | [] => empty
  | produce _ :: past => content empty past
  | publish m :: _ => m
  | send _ :: past => content empty past

/-- The number of the content. -/
def number : List (MailEvent M) → WithBot ℕ
  | [] => ⊥
  | produce _ :: past => number past
  | publish _ :: past => WithBot.some ((produced past).length - 1)
  | send _ :: past => number past

/-- The contents sent, each with the number of items made by then, the latest one first. -/
def sent : List (MailEvent M) → List (M × ℕ)
  | [] => []
  | produce _ :: past => sent past
  | publish _ :: past => sent past
  | send m :: past => (m, (produced past).length) :: sent past

/-- The latest item is published, and the content is sent. -/
def Orderly (empty : M) : MailEvent M → List (MailEvent M) → Prop
  | produce _, _ => True
  | publish m, past => (produced past).head? = some m
  | send m, past => m = content empty past

variable {empty : M}

/-- In an orderly history the content has its number, below the number of items made. -/
lemma numbered_content {h : List (MailEvent M)} (hall : Always (Orderly empty) h) :
    number h < WithBot.some (produced h).length ∧
      Numbered empty (produced h) (number h) (content empty h) := by
  induction h with
  | nil => exact ⟨WithBot.bot_lt_coe 0, rfl⟩
  | cons e past ih =>
    obtain ⟨he, hpast⟩ := hall
    obtain ⟨hlt, hn⟩ := ih hpast
    cases e with
    | produce m =>
      refine ⟨hlt.trans ?_, hn.cons m⟩
      exact WithBot.coe_lt_coe.2 (Nat.lt_succ_self _)
    | publish m =>
      have hhead : (produced past).head? = some m := he
      obtain ⟨items, hitems⟩ := List.head?_eq_some_iff.1 hhead
      simp only [number, produced, content, hitems, List.length_cons, Nat.add_sub_cancel]
      refine ⟨WithBot.coe_lt_coe.2 (Nat.lt_succ_self _), ?_⟩
      show (m :: items).reverse[items.length]? = some m
      simp
    | send m => exact ⟨hlt, hn⟩

/-- The number of the content never decreases. -/
lemma number_le_cons (e : MailEvent M) {h : List (MailEvent M)}
    (hall : Always (Orderly empty) h) : number h ≤ number (e :: h) := by
  cases e with
  | produce m => exact le_rfl
  | publish m =>
    have hlt := (numbered_content hall).1
    simp only [number]
    cases hnum : number h with
    | bot => exact bot_le
    | coe n =>
      rw [hnum] at hlt
      exact WithBot.coe_le_coe.2 (Nat.le_sub_one_of_lt (WithBot.coe_lt_coe.1 hlt))
  | send m => exact le_rfl

/-- **In an orderly history contents are sent in order.**

**Proof sketch.** Induction on the history. The numbers are those of the content at each
sending, which never decrease; all of them are at most the present one. -/
theorem sentInOrder {h : List (MailEvent M)} (hall : Always (Orderly empty) h) :
    SentInOrder empty (produced h) (sent h) := by
  suffices hbound : ∃ numbers : List (WithBot ℕ),
      numbers.Pairwise (fun later earlier => earlier ≤ later) ∧
        List.Forall₂ (fun s n => n < WithBot.some s.2 ∧ Numbered empty (produced h) n s.1)
          (sent h) numbers ∧ ∀ n ∈ numbers, n ≤ number h by
    obtain ⟨numbers, hmono, hnum, -⟩ := hbound
    exact ⟨numbers, hmono, hnum⟩
  induction h with
  | nil => exact ⟨[], List.Pairwise.nil, List.Forall₂.nil, by simp⟩
  | cons e past ih =>
    obtain ⟨numbers, hmono, hnum, hle⟩ := ih hall.2
    have hle' : ∀ n ∈ numbers, n ≤ number (e :: past) := fun n hn =>
      (hle n hn).trans (number_le_cons e hall.2)
    cases e with
    | produce m =>
      exact ⟨numbers, hmono, hnum.imp fun s n hs => ⟨hs.1, hs.2.cons m⟩, hle'⟩
    | publish m => exact ⟨numbers, hmono, hnum, hle'⟩
    | send m =>
      obtain ⟨hlt, hn⟩ := numbered_content hall.2
      have hm : m = content empty past := hall.1
      refine ⟨number past :: numbers, List.pairwise_cons.2 ⟨hle, hmono⟩,
        List.Forall₂.cons ⟨hlt, ?_⟩ hnum, ?_⟩
      · rw [hm]
        exact hn
      · intro n hn'
        rcases List.mem_cons.1 hn' with rfl | hn'
        · exact le_rfl
        · exact hle n hn'

/-- The mailbox events of a longer history, seen through `view`. -/
lemma always_filterMap {view : E → Option (MailEvent M)} {h : List E}
    (hall : Always (fun e past => ∀ a, view e = some a → Orderly empty a (past.filterMap view)) h) :
    Always (Orderly empty) (h.filterMap view) := hall.filterMap

end MailEvent

end Effects
