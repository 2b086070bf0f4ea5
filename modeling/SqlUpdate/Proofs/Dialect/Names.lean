import SqlUpdate.Dialect.Json
import SqlUpdate.Proofs.Dialect.Url
import SqlUpdate.Proofs.Json.Printing
/-!
# The tables of words agree

A word names the same dialect on the command line, in a file and as the scheme of a URL, and the
same mode on the command line, in a file and as a setting of a URL. Files want it in small letters,
and the generic dialect is not the scheme of any URL.

* `Dialect.ofFlag?_eq_ofWord?`, `Dialect.ofScheme?_eq`, `Mode.ofSetting?_eq_ofWord?` — the tables.
* `jsonWord`, `schemeUrl`, `modeUrl` — the texts in which only a word is left open.
* `wordTables_agree` — every word is read alike everywhere.
-/

namespace SqlUpdate

open Text

/-! ### The tables -/

namespace Dialect

theorem ofFlag?_eq_ofWord? (s : String) : ofFlag? s = ofWord? s :=
  Option.ext fun _ => ofFlag?_eq_some_iff.trans ofWord?_eq_some_iff.symm

/-- The schemes are the flags, without those of the generic dialect. -/
theorem ofScheme?_eq (s : String) : ofScheme? s = (ofFlag? s).filter fun d => d ≠ .generic := by
  refine Option.ext fun d => ?_
  rw [ofScheme?_eq_some_iff, Option.filter_eq_some_iff, ofFlag?_eq_some_iff, decide_eq_true_iff,
    and_comm]

theorem toOption_parse (s : String) : (parse s).toOption = ofFlag? (lowerWord s) := by
  rw [parse]
  cases ofFlag? (lowerWord s) <;> rfl

end Dialect

namespace Mode

theorem ofSetting?_eq_ofWord? (s : String) : ofSetting? s = ofWord? s :=
  Option.ext fun _ => ofSetting?_eq_some_iff.trans ofWord?_eq_some_iff.symm

theorem toOption_parse (s : String) : (parse s).toOption = ofSetting? (lowerWord s) := by
  rw [parse]
  cases ofSetting? (lowerWord s) <;> rfl

end Mode

/-! ### Words in files -/

/-- A word as a JSON string. -/
def jsonWord (s : String) : String := String.ofList (Json.ofString s).compact

theorem Json.read?_jsonWord (s : String) : Json.read? (jsonWord s) = some (.ofString s) :=
  Json.read?_compact (.text s)

theorem Dialect.read?_jsonWord (s : String) :
    Dialect.read? (jsonWord (lowerWord s)) = (Dialect.parse s).toOption := by
  rw [read?, Json.read?_jsonWord, toOption_parse, ofFlag?_eq_ofWord?]
  rfl

theorem Mode.read?_jsonWord (s : String) :
    Mode.read? (jsonWord (lowerWord s)) = (Mode.parse s).toOption := by
  rw [read?, Json.read?_jsonWord, toOption_parse, ofSetting?_eq_ofWord?]
  rfl

/-! ### Words in URLs -/

/-- A word as the scheme of a URL. -/
def schemeUrl (s r : String) : String := s ++ ":" ++ r

section Scheme

variable {s : String} (hsolid : Solid s.toList) (hcolon : ':' ∉ s.toList) (hjdbc : s ≠ "jdbc")
include hsolid hcolon hjdbc

theorem urlParts_schemeUrl (r : String) :
    UrlParts (schemeUrl s r) s.toList (trimRight r.toList) := by
  have htext : (schemeUrl s r).toList = s.toList ++ ':' :: r.toList := by
    simp [schemeUrl, String.toList_append]
  refine ⟨hcolon, .inr ⟨?_, fun h => hjdbc (String.toList_injective h)⟩⟩
  rw [htext, trim_append_cons hsolid (by decide)]

theorem ofUrl_schemeUrl_generic (h : Dialect.parse s = .ok .generic) (r : String) :
    (Context.ofUrl (schemeUrl s r)).toOption = none := by
  have hscheme : Dialect.ofScheme? (String.ofList (lower s.toList)) = none := by
    have hflag : Dialect.ofFlag? (lowerWord s) = some .generic := by
      rw [← Dialect.toOption_parse, h]
      rfl
    rw [← lowerWord, Dialect.ofScheme?_eq, hflag]
    rfl
  rw [ofUrl_of_ofScheme?_none (urlParts_schemeUrl hsolid hcolon hjdbc r) hscheme]
  rfl

/-- What follows the colon can only be wrong behind a semicolon. -/
theorem ofUrl_schemeUrl {r : String} (hr : ';' ∉ r.toList) :
    (Context.ofUrl (schemeUrl s r)).toOption.map Context.dialect
      = (Dialect.parse s).toOption.filter fun d => d ≠ .generic := by
  have hparts := urlParts_schemeUrl hsolid hcolon hjdbc r
  rw [Dialect.toOption_parse, ← Dialect.ofScheme?_eq, lowerWord]
  cases hscheme : Dialect.ofScheme? (String.ofList (lower s.toList)) with
  | none =>
    rw [ofUrl_of_ofScheme?_none hparts hscheme]
    rfl
  | some d =>
    by_cases hd : d = .h2
    · -- Without a semicolon there are no settings, so the mode is the regular one.
      subst hd
      have hs : ';' ∉ s.toList := by
        have hword := (Dialect.ofScheme?_eq_some_iff.1 hscheme).2
        have hlower : lower s.toList = ['h', '2'] :=
          String.ofList_injective (List.mem_singleton.1 hword)
        exact not_mem_of_not_mem_lower rfl (hlower ▸ by decide)
      have hmem : ';' ∉ s.toList ++ ':' :: trimRight r.toList := by
        have hrest : ';' ∉ trimRight r.toList := fun h => hr ((List.rdropWhile_prefix _ _).mem h)
        simp [hs, hrest]
      rw [ofUrl_of_ofScheme?_h2 hparts hscheme, urlMode_eq, splitAll_of_not_mem hmem]
      rfl
    · rw [ofUrl_of_ofScheme? hparts hscheme hd]
      rfl

end Scheme

/-- A word as the mode of a URL. -/
def modeUrl (s : String) : String := "h2:x;MODE=" ++ s

/-- How such a URL is put together. -/
def modeH2Url (s : String) (hs : ';' ∉ "MODE=".toList ++ s.toList) : H2Url where
  before := []
  marked := false
  scheme := ['h', '2']
  path := ['x']
  settings := ["MODE=".toList ++ s.toList]
  behind := []
  blanks_before := List.forall_mem_nil _
  blanks_behind := List.forall_mem_nil _
  lower_scheme := rfl
  semicolon_path := by decide
  semicolon_settings := List.forall_mem_singleton.2 hs

theorem ofUrl_modeUrl {s : String} (hsolid : Solid s.toList) (hsemicolon : ';' ∉ s.toList) :
    Context.ofUrl (modeUrl s) = (Mode.parse s).map Context.h2 := by
  have hs : ';' ∉ "MODE=".toList ++ s.toList := by
    rw [List.mem_append]
    exact fun h => h.elim (by decide) hsemicolon
  have htext : (modeH2Url s hs).text = modeUrl s := by
    refine String.toList_injective ?_
    simp [modeH2Url, modeUrl, H2Url.text, H2Url.front, H2Url.rest, String.toList_append]
  have hfirst : FirstMode (modeH2Url s hs).settings s.toList :=
    ⟨[], _, [], rfl, ⟨"MODE".toList, rfl, by decide, by decide⟩, List.forall_mem_nil _⟩
  rw [← htext, H2Url.ofUrl_of_firstMode hfirst, trim_eq_self hsolid, String.ofList_toList]

/-- **The tables of words agree.** In files and on the command line every word names the same
dialect and the same mode, or none, once its letters are small. As the scheme of a URL, a word names
the dialect that it names on the command line, unless this is the generic one, which no URL names;
and as a setting of a URL it names the same mode. -/
theorem wordTables_agree :
    (∀ s, Dialect.read? (jsonWord (lowerWord s)) = (Dialect.parse s).toOption ∧
      (Solid s.toList → ':' ∉ s.toList → s ≠ "jdbc" → ∀ r,
        (';' ∉ r.toList → (Context.ofUrl (schemeUrl s r)).toOption.map Context.dialect
          = (Dialect.parse s).toOption.filter fun d => d ≠ .generic) ∧
        (Dialect.parse s = .ok .generic → (Context.ofUrl (schemeUrl s r)).toOption = none))) ∧
    ∀ s, Mode.read? (jsonWord (lowerWord s)) = (Mode.parse s).toOption ∧
      (Solid s.toList → ';' ∉ s.toList →
        (Context.ofUrl (modeUrl s)).toOption = (Mode.parse s).toOption.map Context.h2) := by
  refine ⟨fun s => ⟨Dialect.read?_jsonWord s, fun hsolid hcolon hjdbc r => ⟨?_, ?_⟩⟩,
    fun s => ⟨Mode.read?_jsonWord s, fun hsolid hsemicolon => ?_⟩⟩
  · exact ofUrl_schemeUrl hsolid hcolon hjdbc
  · exact fun h => ofUrl_schemeUrl_generic hsolid hcolon hjdbc h r
  · rw [ofUrl_modeUrl hsolid hsemicolon]
    cases Mode.parse s <;> rfl

/-- Words with capital letters, for a dialect, for the generic one, and for a mode. -/
theorem wordTables_agree_capitals :
    Dialect.read? (jsonWord "mssql") = some .sqlserver ∧
    (Context.ofUrl "MsSql://h:1").toOption.map Context.dialect = some .sqlserver ∧
    (Context.ofUrl "Generic:x;MODE=Oracle").toOption = none ∧
    (Context.ofUrl "h2:x;MODE=MsSql").toOption = some (.h2 .sqlserver) := by
  have hsqlserver : (Dialect.parse "MsSql").toOption = some .sqlserver := by decide
  have hmode : (Mode.parse "MsSql").toOption = some .sqlserver := by decide
  refine ⟨?_, ?_, ?_, ?_⟩
  · exact (wordTables_agree.1 "MsSql").1.trans hsqlserver
  · have hurl := (wordTables_agree.1 "MsSql").2 (by decide) (by decide) (by decide) "//h:1"
    exact (hurl.1 (by decide)).trans (by rw [hsqlserver]; rfl)
  · have hurl := (wordTables_agree.1 "Generic").2 (by decide) (by decide) (by decide)
    exact (hurl "x;MODE=Oracle").2 rfl
  · have hurl := (wordTables_agree.2 "MsSql").2 (by decide) (by decide)
    exact hurl.trans (by rw [hmode]; rfl)

end SqlUpdate
