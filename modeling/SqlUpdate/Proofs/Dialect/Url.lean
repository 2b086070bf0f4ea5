import SqlUpdate.Proofs.Dialect.Words
import SqlUpdate.Proofs.Text.Cutting
/-!
# What a connection URL says

A URL is put together from a scheme and what follows its colon, with blanks around it and perhaps
`jdbc:` in front. For H2 a path and settings follow, each setting behind a semicolon.

* `UrlParts`, `splitOnce?_urlBody_iff` — the scheme of a URL and what follows it.
* `SetsMode`, `FirstMode`, `NamesMode` — the setting of the mode that counts, and what it names.
* `H2Url`, `H2Url.text` — a URL of an H2 database, as it is put together.
* `H2Url.urlMode_eq` — of all that follows the scheme only the first setting of the mode counts.
* `context_ofUrl` — the contexts of all URLs.
-/

namespace SqlUpdate

open Text

/-! ### The scheme -/

/-- What may stand in front of a scheme. -/
def jdbcMark : List Char := ['j', 'd', 'b', 'c', ':']

/-- The scheme of a URL is what stands before the first colon, once the blanks around the URL and
one `jdbc:` are taken away; the rest follows that colon. -/
def UrlParts (url : String) (scheme rest : List Char) : Prop :=
  ':' ∉ scheme ∧ (trim url.toList = jdbcMark ++ (scheme ++ ':' :: rest) ∨
    trim url.toList = scheme ++ ':' :: rest ∧ scheme ≠ ['j', 'd', 'b', 'c'])

theorem splitOnce?_urlBody_iff {url : String} {scheme rest : List Char} :
    splitOnce? ':' (Context.urlBody url.toList) = some (scheme, rest) ↔
      UrlParts url scheme rest := by
  have hbody : Context.urlBody url.toList
      = (dropLeading? jdbcMark (trim url.toList)).getD (trim url.toList) := rfl
  rw [splitOnce?_eq_some_iff, hbody, and_comm, UrlParts]
  refine and_congr_right fun hscheme => ?_
  generalize trim url.toList = cs
  cases hmark : dropLeading? jdbcMark cs with
  | some body =>
    -- The first colon is the one of the mark, so without it the scheme would be `jdbc`.
    obtain rfl := dropLeading?_eq_some_iff.1 hmark
    have hcut : splitOnce? ':' (jdbcMark ++ body) = some (['j', 'd', 'b', 'c'], body) :=
      splitOnce?_eq_some_iff.2 ⟨rfl, by decide⟩
    have hother : jdbcMark ++ body = scheme ++ ':' :: rest → scheme = ['j', 'd', 'b', 'c'] := by
      intro heq
      rw [splitOnce?_eq_some_iff.2 ⟨heq, hscheme⟩] at hcut
      exact (Prod.mk.inj (Option.some.inj hcut)).1
    rw [Option.getD_some, or_iff_left fun h => h.2 (hother h.1), List.append_cancel_left_eq]
  | none =>
    have hno (body : List Char) : cs ≠ jdbcMark ++ body := by
      intro heq
      rw [dropLeading?_eq_some_iff.2 heq] at hmark
      cases hmark
    rw [Option.getD_none, or_iff_right (hno _)]
    refine (and_iff_left_of_imp ?_).symm
    rintro heq rfl
    exact hno rest heq

section Scheme

variable {url : String} {scheme rest : List Char} (h : UrlParts url scheme rest)
include h

theorem ofUrl_of_ofScheme?_none (hd : Dialect.ofScheme? (String.ofList (lower scheme)) = none) :
    Context.ofUrl url
      = .error (.invalidArgument (.unknownScheme (String.ofList (lower scheme)))) := by
  simp only [Context.ofUrl, splitOnce?_urlBody_iff.2 h, hd]

/-- For H2 the rest of the URL counts. -/
theorem ofUrl_of_ofScheme?_h2 (hd : Dialect.ofScheme? (String.ofList (lower scheme)) = some .h2) :
    Context.ofUrl url = (Context.urlMode (scheme ++ ':' :: rest)).map Context.h2 := by
  have hsplit := splitOnce?_urlBody_iff.2 h
  rw [← splitOnce?_eq_some hsplit]
  simp only [Context.ofUrl, hsplit, hd]

/-- Any database but H2 is told by its scheme alone. -/
theorem ofUrl_of_ofScheme? {d : Dialect}
    (hd : Dialect.ofScheme? (String.ofList (lower scheme)) = some d) (hh2 : d ≠ .h2) :
    Context.ofUrl url = .ok (.of d) := by
  cases d with
  | h2 => exact absurd rfl hh2
  | _ => simp only [Context.ofUrl, splitOnce?_urlBody_iff.2 h, hd]

end Scheme

/-! ### The mode -/

/-- A setting gives the mode a value: `mode` stands before its first equals sign. -/
def SetsMode (setting value : List Char) : Prop :=
  ∃ name, setting = name ++ '=' :: value ∧ '=' ∉ name ∧
    lower (trim name) = ['m', 'o', 'd', 'e']

/-- The first setting that gives the mode a value gives it this one. -/
def FirstMode (settings : List (List Char)) (value : List Char) : Prop :=
  ∃ earlier setting later, settings = earlier ++ setting :: later ∧ SetsMode setting value ∧
    ∀ s ∈ earlier, ∀ v, ¬ SetsMode s v

/-- A value, without the blanks around it and in small letters. -/
def modeWord (value : List Char) : String := String.ofList (lower (trim value))

/-- A value names a mode. -/
def NamesMode (value : List Char) (m : Mode) : Prop := modeWord value ∈ m.words

instance (value : List Char) (m : Mode) : Decidable (NamesMode value m) :=
  inferInstanceAs (Decidable (modeWord value ∈ m.words))

/-- The value that a setting gives the mode, without the blanks around it. -/
def modeValue? (setting : List Char) : Option (List Char) :=
  ((splitOnce? '=' setting).filter Context.isModeSetting).map fun s => trim s.2

theorem modeValue?_eq_some_iff {setting value : List Char} :
    modeValue? setting = some value ↔ ∃ v, SetsMode setting v ∧ trim v = value := by
  simp only [modeValue?, Option.map_eq_some_iff, Option.filter_eq_some_iff, Prod.exists,
    splitOnce?_eq_some_iff, Context.isModeSetting, decide_eq_true_eq, SetsMode]
  constructor
  · rintro ⟨name, v, ⟨⟨hsetting, hname⟩, hmode⟩, hv⟩
    exact ⟨v, ⟨name, hsetting, hname, hmode⟩, hv⟩
  · rintro ⟨v, ⟨name, hsetting, hname, hmode⟩, hv⟩
    exact ⟨name, v, ⟨⟨hsetting, hname⟩, hmode⟩, hv⟩

theorem modeValue?_eq_none_iff {setting : List Char} :
    modeValue? setting = none ↔ ∀ v, ¬ SetsMode setting v := by
  rw [Option.eq_none_iff_forall_ne_some]
  constructor
  · exact fun h v hv => h _ (modeValue?_eq_some_iff.2 ⟨v, hv, rfl⟩)
  · intro h value hvalue
    obtain ⟨v, hv, -⟩ := modeValue?_eq_some_iff.1 hvalue
    exact h v hv

/-- Blanks behind a setting do not matter. -/
theorem modeValue?_trimRight (setting : List Char) :
    modeValue? (trimRight setting) = modeValue? setting := by
  cases hcut : splitOnce? '=' setting with
  | none =>
    have hsetting := splitOnce?_eq_none_iff.1 hcut
    have htrimmed : splitOnce? '=' (trimRight setting) = none :=
      splitOnce?_eq_none_iff.2 fun hmem => hsetting ((List.rdropWhile_prefix _ _).mem hmem)
    rw [modeValue?, modeValue?, htrimmed, hcut]
  | some parts =>
    obtain ⟨name, value⟩ := parts
    obtain ⟨rfl, hname⟩ := splitOnce?_eq_some_iff.1 hcut
    have htrimmed :
        splitOnce? '=' (trimRight (name ++ '=' :: value)) = some (name, trimRight value) :=
      splitOnce?_eq_some_iff.2 ⟨trimRight_append_cons (by decide) _ _, hname⟩
    rw [modeValue?, modeValue?, htrimmed, hcut]
    simp [Option.filter_some, Context.isModeSetting, apply_ite, trim_trimRight]

theorem urlMode_eq (cs : List Char) :
    Context.urlMode cs = match (splitAll ';' cs).tail.findSome? modeValue? with
      | none => .ok .regular
      | some value => Mode.parse (String.ofList value) := by
  have hfind (settings : List (List Char)) : settings.findSome? modeValue?
      = ((settings.filterMap (splitOnce? '=')).find? Context.isModeSetting).map
          fun s => trim s.2 := by
    induction settings with
    | nil => rfl
    | cons s settings ih =>
      rw [List.findSome?_cons, List.filterMap_cons, modeValue?]
      cases splitOnce? '=' s with
      | none => exact ih
      | some parts =>
        rw [ih, List.find?_cons, Option.filter_some]
        cases Context.isModeSetting parts <;> rfl
  rw [hfind, Context.urlMode, Context.urlSettings]
  cases List.find? _ _ <;> rfl

/-! ### URLs of H2 databases -/

/-- A URL of an H2 database, as it is put together. -/
structure H2Url where
  /-- The blanks in front of it. -/
  before : List Char
  /-- Whether `jdbc:` stands in front of the scheme. -/
  marked : Bool
  /-- The scheme, in letters of any case. -/
  scheme : List Char
  /-- What stands between the colon and the first semicolon. -/
  path : List Char
  /-- What stands behind each semicolon. -/
  settings : List (List Char)
  /-- The blanks behind it. -/
  behind : List Char
  blanks_before : Blanks before
  blanks_behind : Blanks behind
  lower_scheme : lower scheme = ['h', '2']
  semicolon_path : ';' ∉ path
  semicolon_settings : ∀ s ∈ settings, ';' ∉ s

namespace H2Url

/-- What follows the colon behind the scheme. -/
def rest (u : H2Url) : List Char := u.path ++ u.settings.flatMap (';' :: ·)

/-- What stands in front of the colon behind the scheme, without blanks. -/
def front (u : H2Url) : List Char := (if u.marked then jdbcMark else []) ++ u.scheme

/-- The URL. -/
def text (u : H2Url) : String :=
  String.ofList (u.before ++ (u.front ++ ':' :: u.rest) ++ u.behind)

variable (u : H2Url)

theorem not_mem_scheme {c : Char} (hc : c.toLower = c) (h : c ∉ ['h', '2']) : c ∉ u.scheme :=
  not_mem_of_not_mem_lower hc (u.lower_scheme ▸ h)

theorem solid_front : Solid u.front := by
  intro c h
  rw [front, List.mem_append] at h
  rcases h with h | h
  · have hmark : Solid jdbcMark := by decide
    split at h
    · exact hmark c h
    · cases h
  · refine Bool.eq_false_iff.2 fun hblank => ?_
    have hc : c ∉ ['h', '2'] := by
      rintro hmem
      have hplain : Solid ['h', '2'] := by decide
      rw [hplain c hmem] at hblank
      cases hblank
    exact u.not_mem_scheme (toLower_of_isBlank hblank) hc h

theorem trim_text : trim u.text.toList = u.front ++ ':' :: trimRight u.rest := by
  rw [text, String.toList_ofList, trim_append_blanks u.blanks_behind, trim_append u.blanks_before,
    trim_append_cons u.solid_front (by decide)]

theorem urlParts_text : UrlParts u.text u.scheme (trimRight u.rest) := by
  refine ⟨u.not_mem_scheme rfl (by decide), ?_⟩
  rw [trim_text, front]
  cases u.marked with
  | true => exact .inl (List.append_assoc _ _ _)
  | false =>
    refine .inr ⟨rfl, fun heq => ?_⟩
    have hlower := u.lower_scheme
    rw [heq] at hlower
    exact absurd hlower (by decide)

/-- The URLs of H2 databases are those with the scheme `h2`. -/
theorem exists_text_eq_iff {url : String} : (∃ u : H2Url, u.text = url) ↔
    ∃ scheme rest, UrlParts url scheme rest ∧ lower scheme = ['h', '2'] := by
  constructor
  · rintro ⟨u, rfl⟩
    exact ⟨_, _, u.urlParts_text, u.lower_scheme⟩
  · rintro ⟨scheme, rest, ⟨-, hparts⟩, hscheme⟩
    obtain ⟨before, behind, hbefore, hbehind, hurl⟩ := eq_append_trim url.toList
    obtain ⟨path, settings, hsplit⟩ := exists_splitAll_eq_cons ';' rest
    obtain ⟨hrest, hsemicolon⟩ := splitAll_eq_cons_iff.1 hsplit
    obtain ⟨hpath, hsettings⟩ := List.forall_mem_cons.1 hsemicolon
    obtain ⟨marked, htrim⟩ : ∃ marked, trim url.toList
        = (if marked = true then jdbcMark else []) ++ scheme ++ ':' :: rest := by
      rcases hparts with hparts | ⟨hparts, -⟩
      · exact ⟨true, by simp [hparts]⟩
      · exact ⟨false, by simp [hparts]⟩
    refine ⟨⟨before, marked, scheme, path, settings, behind, hbefore, hbehind, hscheme, hpath,
      hsettings⟩, ?_⟩
    rw [text, front, H2Url.rest, ← hrest, ← htrim, ← hurl, String.ofList_toList]

/-- Of all that follows the scheme only the first setting of the mode counts. -/
theorem urlMode_eq : Context.urlMode (u.scheme ++ ':' :: trimRight u.rest)
    = match u.settings.findSome? modeValue? with
      | none => .ok .regular
      | some value => Mode.parse (String.ofList value) := by
  have hfront : ';' ∉ u.scheme ++ [':'] := by
    simpa using u.not_mem_scheme (c := ';') rfl (by decide)
  have hsettings : (splitAll ';' u.rest).tail = u.settings := by
    rw [rest, splitAll_eq_cons_iff.2
      ⟨rfl, List.forall_mem_cons.2 ⟨u.semicolon_path, u.semicolon_settings⟩⟩]
    rfl
  -- The blanks behind the URL are lost from its last setting, where they mean nothing.
  have hblanks (parts : List (List Char)) :
      parts.findSome? modeValue? = (parts.map trimRight).findSome? modeValue? := by
    rw [List.findSome?_map, show modeValue? ∘ trimRight = modeValue? from
      funext modeValue?_trimRight]
  rw [SqlUpdate.urlMode_eq, List.append_cons, tail_splitAll_append hfront, hblanks, List.map_tail,
    map_trimRight_splitAll (by decide), ← List.map_tail, hsettings, ← hblanks]

theorem ofUrl_text : Context.ofUrl u.text = match u.settings.findSome? modeValue? with
    | none => .ok (.h2 .regular)
    | some value => (Mode.parse (String.ofList value)).map Context.h2 := by
  have hscheme : Dialect.ofScheme? (String.ofList (lower u.scheme)) = some .h2 := by
    rw [u.lower_scheme]
    rfl
  rw [ofUrl_of_ofScheme?_h2 u.urlParts_text hscheme, urlMode_eq]
  cases u.settings.findSome? modeValue? <;> rfl

end H2Url

/-! ### All URLs -/

theorem findSome?_modeValue?_eq_some_iff {settings : List (List Char)} {value : List Char} :
    settings.findSome? modeValue? = some value ↔ ∃ v, FirstMode settings v ∧ trim v = value := by
  simp only [List.findSome?_eq_some_iff, modeValue?_eq_some_iff, modeValue?_eq_none_iff, FirstMode]
  constructor
  · rintro ⟨earlier, s, later, hsettings, ⟨v, hv, hvalue⟩, hearlier⟩
    exact ⟨v, ⟨earlier, s, later, hsettings, hv, hearlier⟩, hvalue⟩
  · rintro ⟨v, ⟨earlier, s, later, hsettings, hv, hearlier⟩, hvalue⟩
    exact ⟨earlier, s, later, hsettings, ⟨v, hv, hvalue⟩, hearlier⟩

theorem findSome?_modeValue?_eq_none_iff {settings : List (List Char)} :
    settings.findSome? modeValue? = none ↔ ∀ v, ¬ FirstMode settings v := by
  rw [Option.eq_none_iff_forall_ne_some]
  constructor
  · exact fun h v hv => h _ (findSome?_modeValue?_eq_some_iff.2 ⟨v, hv, rfl⟩)
  · intro h value hvalue
    obtain ⟨v, hv, -⟩ := findSome?_modeValue?_eq_some_iff.1 hvalue
    exact h v hv

theorem modeWord_eq (value : List Char) :
    modeWord value = lowerWord (String.ofList (trim value)) := by
  rw [modeWord, lowerWord, String.toList_ofList]

namespace H2Url

variable {u : H2Url}

theorem ofUrl_of_firstMode {v : List Char} (h : FirstMode u.settings v) :
    Context.ofUrl u.text = (Mode.parse (String.ofList (trim v))).map Context.h2 := by
  rw [ofUrl_text, findSome?_modeValue?_eq_some_iff.2 ⟨v, h, rfl⟩]

theorem ofUrl_of_not_firstMode (h : ∀ v, ¬ FirstMode u.settings v) :
    Context.ofUrl u.text = .ok (.h2 .regular) := by
  rw [ofUrl_text, findSome?_modeValue?_eq_none_iff.2 h]

/-- The value that counts, or none, decides. -/
theorem firstMode_or (u : H2Url) :
    (∃ v, FirstMode u.settings v) ∨ ∀ v, ¬ FirstMode u.settings v := by
  rw [← not_exists]
  exact Classical.em _

theorem ofUrl_eq_ok_iff {ctx : Context} : Context.ofUrl u.text = .ok ctx ↔
    ∃ m, ctx = .h2 m ∧ ((∃ v, FirstMode u.settings v ∧ NamesMode v m) ∨
      (∀ v, ¬ FirstMode u.settings v) ∧ m = .regular) := by
  constructor
  · intro h
    rcases u.firstMode_or with ⟨v, hv⟩ | hno
    · rw [ofUrl_of_firstMode hv] at h
      cases hm : Mode.parse (String.ofList (trim v)) with
      | error e =>
        rw [hm] at h
        cases h
      | ok m =>
        rw [hm] at h
        cases h
        rw [Mode.parse_eq_ok_iff, ← modeWord_eq] at hm
        exact ⟨m, rfl, .inl ⟨v, hv, hm⟩⟩
    · rw [ofUrl_of_not_firstMode hno] at h
      cases h
      exact ⟨.regular, rfl, .inr ⟨hno, rfl⟩⟩
  · rintro ⟨m, rfl, ⟨v, hv, hm⟩ | ⟨hno, rfl⟩⟩
    · rw [NamesMode, modeWord_eq, ← Mode.parse_eq_ok_iff] at hm
      rw [ofUrl_of_firstMode hv, hm]
      rfl
    · exact ofUrl_of_not_firstMode hno

theorem ofUrl_eq_error_iff {e : Error} : Context.ofUrl u.text = .error e ↔
    ∃ v, FirstMode u.settings v ∧ (∀ m, ¬ NamesMode v m) ∧
      e = .invalidArgument (.unknownMode (modeWord v)) := by
  have hparse (v : List Char) : (Mode.parse (String.ofList (trim v))).map Context.h2 = .error e ↔
      (∀ m, ¬ NamesMode v m) ∧ e = .invalidArgument (.unknownMode (modeWord v)) := by
    simp only [NamesMode, modeWord_eq]
    rw [← Mode.parse_eq_error_iff]
    cases Mode.parse (String.ofList (trim v)) <;> simp [Except.map]
  constructor
  · intro h
    rcases u.firstMode_or with ⟨v, hv⟩ | hno
    · rw [ofUrl_of_firstMode hv, hparse] at h
      exact ⟨v, hv, h⟩
    · rw [ofUrl_of_not_firstMode hno] at h
      cases h
  · rintro ⟨v, hv, h⟩
    rw [ofUrl_of_firstMode hv]
    exact (hparse v).2 h

theorem ofUrl_congr {w : H2Url} (h : ∀ v, FirstMode w.settings v ↔ FirstMode u.settings v) :
    Context.ofUrl w.text = Context.ofUrl u.text := by
  rcases u.firstMode_or with ⟨v, hv⟩ | hno
  · rw [ofUrl_of_firstMode hv, ofUrl_of_firstMode ((h v).2 hv)]
  · rw [ofUrl_of_not_firstMode hno, ofUrl_of_not_firstMode fun v hv => hno v ((h v).1 hv)]

end H2Url

/-- A URL that is no URL of an H2 database is accepted by its scheme alone. -/
theorem ofUrl_eq_ok_iff_of_ne {url : String} (h : ∀ u : H2Url, u.text ≠ url) {ctx : Context} :
    Context.ofUrl url = .ok ctx ↔ ∃ scheme rest d, UrlParts url scheme rest ∧ d ≠ .generic ∧
      d ≠ .h2 ∧ String.ofList (lower scheme) ∈ d.words ∧ ctx = ⟨d, none⟩ := by
  have hscheme {scheme rest : List Char} (hparts : UrlParts url scheme rest) :
      lower scheme ≠ ['h', '2'] := by
    intro hlower
    obtain ⟨u, hu⟩ := H2Url.exists_text_eq_iff.2 ⟨scheme, rest, hparts, hlower⟩
    exact h u hu
  constructor
  · intro hok
    cases hsplit : splitOnce? ':' (Context.urlBody url.toList) with
    | none =>
      rw [Context.ofUrl, hsplit] at hok
      cases hok
    | some parts =>
      obtain ⟨scheme, rest⟩ := parts
      have hparts := splitOnce?_urlBody_iff.1 hsplit
      cases hd : Dialect.ofScheme? (String.ofList (lower scheme)) with
      | none =>
        rw [ofUrl_of_ofScheme?_none hparts hd] at hok
        cases hok
      | some d =>
        obtain ⟨hgeneric, hword⟩ := Dialect.ofScheme?_eq_some_iff.1 hd
        have hh2 : d ≠ .h2 := by
          rintro rfl
          exact hscheme hparts (String.ofList_injective (List.mem_singleton.1 hword))
        rw [ofUrl_of_ofScheme? hparts hd hh2] at hok
        exact ⟨scheme, rest, d, hparts, hgeneric, hh2, hword, (Except.ok.inj hok).symm⟩
  · rintro ⟨scheme, rest, d, hparts, hgeneric, hh2, hword, rfl⟩
    exact ofUrl_of_ofScheme? hparts (Dialect.ofScheme?_eq_some_iff.2 ⟨hgeneric, hword⟩) hh2

/-- **What a connection URL says.** A URL of an H2 database means this database in the mode that the
value of the first setting of the mode names, and in the regular mode if no setting gives one; it is
refused exactly if that value names no mode. So neither its path nor any other setting counts. Every
other URL is accepted exactly if its scheme names another database, whatever follows, and means this
database without a mode. -/
theorem context_ofUrl :
    (∀ u : H2Url,
      (∀ ctx, Context.ofUrl u.text = .ok ctx ↔ ∃ m, ctx = .h2 m ∧
        ((∃ v, FirstMode u.settings v ∧ NamesMode v m) ∨
          (∀ v, ¬ FirstMode u.settings v) ∧ m = .regular)) ∧
      (∀ e, Context.ofUrl u.text = .error e ↔ ∃ v, FirstMode u.settings v ∧
        (∀ m, ¬ NamesMode v m) ∧ e = .invalidArgument (.unknownMode (modeWord v))) ∧
      ∀ w : H2Url, (∀ v, FirstMode w.settings v ↔ FirstMode u.settings v) →
        Context.ofUrl w.text = Context.ofUrl u.text) ∧
    ∀ url, (∀ u : H2Url, u.text ≠ url) → ∀ ctx, Context.ofUrl url = .ok ctx ↔
      ∃ scheme rest d, UrlParts url scheme rest ∧ d ≠ .generic ∧ d ≠ .h2 ∧
        String.ofList (lower scheme) ∈ d.words ∧ ctx = ⟨d, none⟩ :=
  ⟨fun _ => ⟨fun _ => H2Url.ofUrl_eq_ok_iff, fun _ => H2Url.ofUrl_eq_error_iff,
    fun _ => H2Url.ofUrl_congr⟩, fun _ hurl _ => ofUrl_eq_ok_iff_of_ne hurl⟩

/-- A URL that names a mode in its path, in a setting, and again in a later one. -/
def threeModesUrl : H2Url where
  before := [' ']
  marked := true
  scheme := ['H', '2']
  path := "MODE=Oracle".toList
  settings := ["mode".toList, " Mode = MySQL".toList, "MODE=DB2".toList]
  behind := ['\t']
  blanks_before := by decide
  blanks_behind := by decide
  lower_scheme := by decide
  semicolon_path := by decide
  semicolon_settings := by decide

/-- Only the second setting counts here, and no setting does in a URL of another database. -/
theorem context_ofUrl_threeModes :
    Context.ofUrl " jdbc:H2:MODE=Oracle;mode; Mode = MySQL;MODE=DB2\t" = .ok (.h2 .mysql) ∧
    (∀ u : H2Url, u.text ≠ "jdbc:PgSQL:x;MODE=Oracle") ∧
    Context.ofUrl "jdbc:PgSQL:x;MODE=Oracle" = .ok ⟨.postgresql, none⟩ := by
  have hother : ∀ u : H2Url, u.text ≠ "jdbc:PgSQL:x;MODE=Oracle" := by
    intro u hu
    have hparts := splitOnce?_urlBody_iff.2 u.urlParts_text
    have hcut : splitOnce? ':' (Context.urlBody "jdbc:PgSQL:x;MODE=Oracle".toList)
        = some ("PgSQL".toList, "x;MODE=Oracle".toList) := by decide
    rw [hu, hcut] at hparts
    have hlower := u.lower_scheme
    rw [← (Prod.mk.inj (Option.some.inj hparts)).1] at hlower
    exact absurd hlower (by decide)
  refine ⟨?_, hother, ?_⟩
  · have htext : threeModesUrl.text = " jdbc:H2:MODE=Oracle;mode; Mode = MySQL;MODE=DB2\t" := by
      decide
    have hfirst : FirstMode threeModesUrl.settings " MySQL".toList := by
      refine ⟨["mode".toList], " Mode = MySQL".toList, ["MODE=DB2".toList], rfl,
        ⟨" Mode ".toList, rfl, by decide, by decide⟩, ?_⟩
      rintro s hs v ⟨name, heq, -⟩
      rw [List.mem_singleton.1 hs] at heq
      have hmem : '=' ∈ "mode".toList := heq ▸ List.mem_append_right name List.mem_cons_self
      exact absurd hmem (by decide)
    rw [← htext]
    exact ((context_ofUrl.1 threeModesUrl).1 _).2 ⟨.mysql, rfl, .inl ⟨_, hfirst, by decide⟩⟩
  · have hparts : UrlParts "jdbc:PgSQL:x;MODE=Oracle" "PgSQL".toList "x;MODE=Oracle".toList :=
      ⟨by decide, .inl (by decide)⟩
    exact (context_ofUrl.2 _ hother _).2
      ⟨_, _, .postgresql, hparts, by decide, by decide, by decide, rfl⟩

end SqlUpdate
