import SqlUpdate.Dialect.Url
/-!
# The tables of words

Dialects and modes are named in files, on the command line and in URLs, each with a table of its
own. What all of these tables know is said by the words of each dialect and mode.

* `Dialect.ofWord?_eq_some_iff`, `Mode.ofWord?_eq_some_iff` — the tables of files.
* `Dialect.ofFlag?_eq_some_iff` — the table of the command line.
* `Dialect.ofScheme?_eq_some_iff` — the table of URLs, which does not know the generic dialect.
* `Mode.ofSetting?_eq_some_iff` — the table of modes outside files.
* `Mode.parse_eq_ok_iff`, `Mode.parse_eq_error_iff` — what is read of words of any case.
-/

namespace SqlUpdate

namespace Dialect

variable {s : String} {d : Dialect}

theorem ofWord?_eq_some_iff : ofWord? s = some d ↔ s ∈ d.words := by
  constructor
  · intro h
    simpa using List.find?_some h
  · have hwords : ∀ w ∈ d.words, ofWord? w = some d := by cases d <;> decide
    exact hwords s

theorem ofFlag?_eq_some_iff : ofFlag? s = some d ↔ s ∈ d.words := by
  constructor
  · intro h
    rw [ofFlag?.eq_def] at h
    split at h <;> cases h <;> decide
  · have hwords : ∀ w ∈ d.words, ofFlag? w = some d := by cases d <;> decide
    exact hwords s

theorem ofScheme?_eq_some_iff : ofScheme? s = some d ↔ d ≠ .generic ∧ s ∈ d.words := by
  constructor
  · intro h
    rw [ofScheme?.eq_def] at h
    split at h <;> cases h <;> decide
  · rintro ⟨hd, hs⟩
    have hwords : d ≠ .generic → ∀ w ∈ d.words, ofScheme? w = some d := by cases d <;> decide
    exact hwords hd s hs

end Dialect

namespace Mode

variable {s : String} {m : Mode}

theorem ofWord?_eq_some_iff : ofWord? s = some m ↔ s ∈ m.words := by
  constructor
  · intro h
    simpa using List.find?_some h
  · have hwords : ∀ w ∈ m.words, ofWord? w = some m := by cases m <;> decide
    exact hwords s

theorem ofSetting?_eq_some_iff : ofSetting? s = some m ↔ s ∈ m.words := by
  constructor
  · intro h
    rw [ofSetting?.eq_def] at h
    split at h <;> cases h <;> decide
  · have hwords : ∀ w ∈ m.words, ofSetting? w = some m := by cases m <;> decide
    exact hwords s

theorem parse_eq_ok_iff : parse s = .ok m ↔ lowerWord s ∈ m.words := by
  rw [← ofSetting?_eq_some_iff, parse]
  cases ofSetting? (lowerWord s) <;> simp

theorem parse_eq_error_iff {e : Error} : parse s = .error e ↔
    (∀ m : Mode, lowerWord s ∉ m.words) ∧ e = .invalidArgument (.unknownMode (lowerWord s)) := by
  simp only [← ofSetting?_eq_some_iff]
  rw [parse]
  cases ofSetting? (lowerWord s) <;> simp [eq_comm]

end Mode

end SqlUpdate
