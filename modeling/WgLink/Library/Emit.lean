import Mathlib.Data.List.Basic

/-!
# Loops that emit

A loop over a list that changes a state and emits outputs on its way.  Its
rules are inductions along the list: what every round keeps, with the outputs
emitted so far, holds at the end, and each output is emitted by some round.
-/

namespace WgLink.Library

universe u v w

variable {σ : Type u} {α : Type v} {ε : Type w}

/-- Run the round for each item in turn and collect what the rounds emit. -/
def emitAll (round : σ → α → σ × List ε) : σ → List α → σ × List ε
  | state, [] => (state, [])
  | state, item :: rest =>
      let (next, emitted) := round state item
      let (final, later) := emitAll round next rest
      (final, emitted ++ later)

variable {round : σ → α → σ × List ε}

/-- What each round keeps, the loop keeps.  The invariant may speak about the
items still to come and the outputs so far. -/
theorem emitAll_invariant
    {Invariant : List α → List ε → σ → Prop}
    (keeps :
      ∀ item rest past state,
        Invariant (item :: rest) past state →
        Invariant rest (past ++ (round state item).2) (round state item).1)
    {items : List α} {past : List ε} {state : σ}
    (holds : Invariant items past state) :
    Invariant [] (past ++ (emitAll round state items).2)
      (emitAll round state items).1 := by
  induction items generalizing past state with
  | nil =>
      rw [emitAll, List.append_nil]
      exact holds
  | cons item rest inductionHypothesis =>
      have kept := keeps item rest past state holds
      rw [emitAll, ← List.append_assoc]
      exact inductionHypothesis kept

/-- The rule for an invariant that does not look at the items to come. -/
theorem emitAll_keeps
    {Invariant : List ε → σ → Prop}
    (keeps :
      ∀ item past state,
        Invariant past state →
        Invariant (past ++ (round state item).2) (round state item).1)
    {past : List ε} {state : σ} (holds : Invariant past state)
    (items : List α) :
    Invariant (past ++ (emitAll round state items).2)
      (emitAll round state items).1 :=
  @emitAll_invariant σ α ε round (fun _ => Invariant)
    (fun item _ => keeps item) items past state holds

/-- A property of states that each round keeps holds at the end, and it holds
where each output was emitted. -/
theorem emitAll_emitted
    {Invariant : σ → Prop} {items : List α} {state : σ}
    (keeps :
      ∀ state item, Invariant state → Invariant (round state item).1)
    (holds : Invariant state) :
    ∀ output ∈ (emitAll round state items).2,
      ∃ visited item,
        Invariant visited ∧ item ∈ items ∧ output ∈ (round visited item).2 := by
  induction items generalizing state with
  | nil =>
      intro output member
      cases member
  | cons item rest inductionHypothesis =>
      intro output member
      rw [emitAll, List.mem_append] at member
      rcases member with here | later
      · exact ⟨state, item, holds, List.mem_cons_self, here⟩
      · obtain ⟨visited, other, held, otherMember, emitted⟩ :=
          inductionHypothesis (keeps state item holds) output later
        exact ⟨visited, other, held, List.mem_cons_of_mem item otherMember,
          emitted⟩

/-- What no round emits, the loop does not emit. -/
theorem not_mem_emitAll
    {output : ε}
    (never : ∀ state item, output ∉ (round state item).2)
    (state : σ) (items : List α) :
    output ∉ (emitAll round state items).2 := by
  induction items generalizing state with
  | nil =>
      exact List.not_mem_nil
  | cons item rest inductionHypothesis =>
      rw [emitAll, List.mem_append, not_or]
      exact ⟨never state item, inductionHypothesis _⟩

/-- Every item has its round, from a state where the property holds. -/
theorem emitAll_of_mem
    {Invariant : σ → Prop} {items : List α} {state : σ} {item : α}
    (keeps :
      ∀ state item, Invariant state → Invariant (round state item).1)
    (holds : Invariant state) (member : item ∈ items) :
    ∃ visited,
      Invariant visited ∧
        (round visited item).2 ⊆ (emitAll round state items).2 := by
  induction items generalizing state with
  | nil =>
      cases member
  | cons first rest inductionHypothesis =>
      rw [emitAll]
      rcases List.mem_cons.mp member with rfl | later
      · exact ⟨state, holds, List.subset_append_left _ _⟩
      · obtain ⟨visited, held, emitted⟩ :=
          inductionHypothesis (keeps state first holds) later
        exact ⟨visited, held, List.subset_append_of_subset_right _ emitted⟩

end WgLink.Library
