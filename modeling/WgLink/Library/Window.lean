import WgLink.Library.HashMap
import WgLink.Library.Saturating

/-!
# Reports at most once in a window

A table of the keys that were reported, with the times of their last reports.
A key is blocked for the length of a window after its report, and every report
drops the entries whose window is over.  `Tracks` compares such a table with
the full history of reports.
-/

namespace WgLink.Library.Window

universe u

variable {κ : Type u} [DecidableEq κ] {window : UInt64}

/-- The window of a report at `last` is not over. -/
def recent (window now last : UInt64) : Bool :=
  saturatingSub now last < window

/-- The key was reported within the window. -/
def blocked
    (window : UInt64) (table : HashMap κ UInt64) (key : κ) (now : UInt64) :
    Bool :=
  match table.lookup key with
  | none => false
  | some last => recent window now last

/-- Enter a report, and drop what is over. -/
def report
    (window : UInt64) (table : HashMap κ UInt64) (key : κ) (now : UInt64) :
    HashMap κ UInt64 :=
  HashMap.retain (table.insert key now) fun _ last => recent window now last

theorem recent_iff {now last : UInt64} :
    recent window now last = true ↔
      now.toNat - last.toNat < window.toNat := by
  unfold recent
  rw [decide_eq_true_iff, UInt64.lt_iff_toNat_lt, toNat_saturatingSub]

theorem blocked_iff
    {table : HashMap κ UInt64} {key : κ} {now : UInt64} :
    blocked window table key now = true ↔
      ∃ last,
        table.lookup key = some last ∧ recent window now last = true := by
  unfold blocked
  cases table.lookup key with
  | none =>
      simp
  | some last =>
      simp

/-- What a report leaves in the table. -/
theorem lookup_report
    {table : HashMap κ UInt64} {key query : κ} {now last : UInt64} :
    (report window table key now).lookup query = some last ↔
      (if query = key then last = now else table.lookup query = some last) ∧
        recent window now last = true := by
  unfold report
  rw [HashMap.lookup_retain_eq_some, HashMap.lookup_insert_eq_ite]
  by_cases same : query = key
  · rw [if_pos same, if_pos same, Option.some.injEq, @eq_comm _ now last]
  · rw [if_neg same, if_neg same]

/-- The table knows every report of the history whose window is not over yet
at the last report, and nothing else. -/
structure Tracks
    (window : UInt64) (history : List (κ × UInt64))
    (table : HashMap κ UInt64) : Prop where
  reported :
    ∀ key last, table.lookup key = some last → (key, last) ∈ history
  remembered :
    ∀ entry ∈ history,
      (∃ later ∈ history,
          window.toNat ≤ later.2.toNat - entry.2.toNat) ∨
        ∃ last, table.lookup entry.1 = some last ∧ entry.2 ≤ last

namespace Tracks

variable {history : List (κ × UInt64)} {table : HashMap κ UInt64}

theorem empty : Tracks window ([] : List (κ × UInt64)) ∅ := by
  constructor
  · intro key last found
    cases found
  · intro entry member
    cases member

/-- As long as time does not go back, the purged table blocks what the full
history blocks. -/
theorem blocked_iff_history
    {key : κ} {now : UInt64}
    (tracks : Tracks window history table)
    (passed : ∀ entry ∈ history, entry.2 ≤ now) :
    blocked window table key now = true ↔
      ∃ entry ∈ history,
        entry.1 = key ∧ now.toNat - entry.2.toNat < window.toNat := by
  rw [blocked_iff]
  constructor
  · rintro ⟨last, found, fresh⟩
    exact ⟨(key, last), tracks.reported key last found, rfl,
      recent_iff.mp fresh⟩
  · rintro ⟨entry, member, same, fresh⟩
    rcases tracks.remembered entry member with
      ⟨later, laterMember, expired⟩ | ⟨last, found, newer⟩
    · have laterPassed := passed later laterMember
      rw [UInt64.le_iff_toNat_le] at laterPassed
      omega
    · rw [UInt64.le_iff_toNat_le] at newer
      rw [same] at found
      exact ⟨last, found, recent_iff.mpr (by omega)⟩

/-- A report keeps table and history together. -/
theorem report
    {key : κ} {now : UInt64}
    (positive : 0 < window.toNat)
    (tracks : Tracks window history table)
    (passed : ∀ entry ∈ history, entry.2 ≤ now) :
    Tracks window ((key, now) :: history)
      (Window.report window table key now) := by
  have entered :
      (Window.report window table key now).lookup key = some now := by
    rw [lookup_report, if_pos rfl, recent_iff]
    exact ⟨rfl, by omega⟩
  constructor
  · intro query last found
    rw [lookup_report] at found
    by_cases same : query = key
    · rw [if_pos same] at found
      rw [same, found.1]
      exact List.mem_cons_self
    · rw [if_neg same] at found
      exact List.mem_cons_of_mem _ (tracks.reported query last found.1)
  · intro entry member
    rcases List.mem_cons.mp member with isNew | older
    · right
      rw [isNew]
      exact ⟨now, entered, UInt64.le_refl now⟩
    · rcases tracks.remembered entry older with
        ⟨later, laterMember, expired⟩ | ⟨last, found, newer⟩
      · exact Or.inl ⟨later, List.mem_cons_of_mem _ laterMember, expired⟩
      · by_cases same : entry.1 = key
        · right
          rw [same]
          exact ⟨now, entered, passed entry older⟩
        · by_cases fresh : recent window now last = true
          · right
            refine ⟨last, ?_, newer⟩
            rw [lookup_report, if_neg same]
            exact ⟨found, fresh⟩
          · -- the entry is purged because its window is over
            left
            refine ⟨(key, now), List.mem_cons_self, ?_⟩
            rw [recent_iff] at fresh
            rw [UInt64.le_iff_toNat_le] at newer
            change window.toNat ≤ now.toNat - entry.2.toNat
            omega

end Tracks

/-- After a report every entry of the table is recent. -/
theorem recent_of_report
    {table : HashMap κ UInt64} {key query : κ} {now last : UInt64}
    (found : (report window table key now).lookup query = some last) :
    now.toNat - last.toNat < window.toNat :=
  recent_iff.mp (lookup_report.mp found).2

end WgLink.Library.Window
