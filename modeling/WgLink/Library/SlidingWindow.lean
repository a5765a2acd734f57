import Mathlib.Data.List.Basic

/-!
# A queue that is trimmed from its front

Entries are added at the back.  From time to time the front is taken off while
the queue is longer than a limit or its first entry is old.  `trim` forgets
nothing too early: it does not matter how often a queue has been trimmed
before.
-/

namespace WgLink.Library.SlidingWindow

universe u

variable {α : Type u} {limit : Nat} {old : α → Bool}

/-- The front is taken off while the queue is too long or its front is old. -/
def trim (limit : Nat) (old : α → Bool) : List α → List α
  | [] => []
  | front :: rest =>
      if (front :: rest).length > limit ∨ old front = true then
        trim limit old rest
      else
        front :: rest

/-- An entry that is taken off a queue is also taken off when the queue has
grown and more entries are old. -/
theorem trim_trim_append
    {older : α → Bool} (ages : ∀ entry, older entry = true → old entry = true)
    (queue more : List α) :
    trim limit old (trim limit older queue ++ more) =
      trim limit old (queue ++ more) := by
  induction queue with
  | nil =>
      rfl
  | cons front rest inductionHypothesis =>
      by_cases dropped :
          (front :: rest).length > limit ∨ older front = true
      · have droppedLater :
            (front :: (rest ++ more)).length > limit ∨ old front = true := by
          rcases dropped with tooLong | isOld
          · left
            simp only [List.length_cons, List.length_append] at tooLong ⊢
            omega
          · exact Or.inr (ages front isOld)
        calc
          trim limit old (trim limit older (front :: rest) ++ more) =
              trim limit old (trim limit older rest ++ more) := by
            rw [trim, if_pos dropped]
          _ = trim limit old (rest ++ more) := inductionHypothesis
          _ = trim limit old (front :: rest ++ more) := by
            rw [List.cons_append, trim, if_pos droppedLater]
      · rw [trim, if_neg dropped]

/-- As long as no entry is behind an entry that is older than itself, the
queue keeps the newest entries that are not old. -/
theorem reverse_trim
    {queue : List α}
    (ordered :
      queue.Pairwise fun front behind =>
        old behind = true → old front = true) :
    (trim limit old queue).reverse =
      (queue.reverse.filter fun entry => !old entry).take limit := by
  induction queue with
  | nil =>
      rw [trim, List.reverse_nil, List.filter_nil, List.take_nil]
  | cons front rest inductionHypothesis =>
      obtain ⟨before, restOrdered⟩ := List.pairwise_cons.mp ordered
      have restTrimmed := inductionHypothesis restOrdered
      by_cases isOld : old front = true
      · have gone : [front].filter (fun entry => !old entry) = [] := by
          simp [isOld]
        rw [trim, if_pos (Or.inr isOld), restTrimmed, List.reverse_cons,
          List.filter_append, gone, List.append_nil]
      · have allFresh :
            (front :: rest).reverse.filter (fun entry => !old entry) =
              (front :: rest).reverse := by
          apply List.filter_eq_self.mpr
          intro entry member
          rcases List.mem_cons.mp (List.mem_reverse.mp member) with
            rfl | behind
          · rw [Bool.eq_false_iff.mpr isOld]
            rfl
          · have fresh : old entry = false :=
              Bool.eq_false_iff.mpr fun entryOld =>
                isOld (before entry behind entryOld)
            rw [fresh]
            rfl
        rw [allFresh]
        by_cases tooLong : (front :: rest).length > limit
        · have restFresh :
              rest.reverse.filter (fun entry => !old entry) =
                rest.reverse := by
            rw [List.reverse_cons, List.filter_append] at allFresh
            exact (List.append_inj' allFresh (by simp [isOld])).1
          have fits : limit ≤ rest.reverse.length := by
            rw [List.length_reverse]
            rw [List.length_cons] at tooLong
            omega
          rw [trim, if_pos (Or.inl tooLong), restTrimmed, restFresh,
            List.reverse_cons, List.take_append_of_le_length fits]
        · rw [trim, if_neg (not_or.mpr ⟨tooLong, isOld⟩),
            List.take_of_length_le]
          rw [List.length_reverse]
          omega

end WgLink.Library.SlidingWindow
