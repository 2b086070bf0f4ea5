import SqlUpdate.Config
import SqlUpdate.Proofs.Dialect.Words
import SqlUpdate.Proofs.Json.Shape
/-!
# Where a dialect comes from

A dialect and a mode are given by a configuration file, by a URL, and by themselves. The file and
the URL give both; a URL, even one without a mode, gives what a file would have given.

* `Gives`, `Declares`, `Context.read?_eq_some_iff` — what a configuration file says.
* `ConfigSays`, `ConfigFails`, `UrlSays`, `UrlFails` — what a source says, or how it fails.
* `ContextSources.resolve_eq_ok_iff`, `ContextSources.resolve_eq_error_iff` — what all of them say.
* `contextSources_resolve` — a source overrides those before it, field by field.
-/

namespace SqlUpdate

/-! ### Configuration files -/

/-- There is one member of a name, with a value. -/
def OnlyMember (name : String) (ms : List (String × Json)) (j : Json) : Prop :=
  (ms.filter fun m => m.1 = name) = [(name, j)]

/-- There is at most one member of a name, with a value if there is one. -/
def AtMostMember (name : String) (ms : List (String × Json)) : Option Json → Prop
  | none => ∀ m ∈ ms, m.1 ≠ name
  | some j => OnlyMember name ms j

/-- A document is one of these words: as a string, or as the name of the only member of an object,
which is `null`. -/
def IsTag (words : List String) (j : Json) : Prop :=
  ∃ w ∈ words, j = .ofString w ∨ j = .ofMembers [(w, .null)]

/-- A document gives a dialect, and a mode if there is one: in an array, or by the names of members
among which others may stand. -/
inductive Gives : Json → Json → Option Json → Prop
  | dialect (d : Json) : Gives (.array [d]) d none
  | both (d m : Json) : Gives (.array [d, m]) d (some m)
  | members {ms : List (String × Json)} {d : Json} {m : Option Json}
      (hdialect : OnlyMember "dialect" ms d) (hmode : AtMostMember "h2_mode" ms m) :
      Gives (.ofMembers ms) d m

/-- What is given for the mode says which one is set, or that none is. -/
def DeclaresMode (given : Option Json) : Option Mode → Prop
  | none => given = none ∨ given = some .null
  | some mode => ∃ j, given = some j ∧ IsTag mode.words j

/-- The text of a configuration file says which context is meant: it is a document that gives the
dialect, and the mode if there is one. -/
def Declares (t : String) (ctx : Context) : Prop :=
  ∃ j d m, Json.read? t = some j ∧ Gives j d m ∧ IsTag ctx.dialect.words d ∧
    DeclaresMode m ctx.modeSetting

namespace Json

variable {name : String} {ms : List (String × Json)}

theorem member?_eq_some_some_iff {j : Json} :
    member? name ms = some (some j) ↔ OnlyMember name ms j := by
  have hname : ∀ m ∈ ms.filter fun m => m.1 = name, m.1 = name := by
    intro m hm
    simpa using List.of_mem_filter hm
  rw [member?, OnlyMember]
  generalize List.filter _ ms = found at hname ⊢
  rcases found with _ | ⟨⟨n, k⟩, _ | ⟨m, found⟩⟩
  · simp
  · obtain rfl : n = name := hname _ List.mem_cons_self
    simp
  · simp

theorem member?_eq_some_none_iff : member? name ms = some none ↔ ∀ m ∈ ms, m.1 ≠ name := by
  have hno : (∀ m ∈ ms, m.1 ≠ name) ↔ (ms.filter fun m => m.1 = name) = [] := by
    simp [List.filter_eq_nil_iff]
  rw [hno, member?]
  rcases List.filter _ ms with _ | ⟨m, _ | ⟨n, found⟩⟩ <;> simp

theorem member?_eq_some_iff {o : Option Json} :
    member? name ms = some o ↔ AtMostMember name ms o := by
  cases o with
  | none => exact member?_eq_some_none_iff
  | some j => exact member?_eq_some_some_iff

theorem required?_eq_some_iff {j : Json} : required? name ms = some j ↔ OnlyMember name ms j := by
  rw [← member?_eq_some_some_iff, required?, Option.join_eq_some_iff]

theorem tag?_eq_some_iff {j : Json} {w : String} :
    j.tag? = some w ↔ j = .ofString w ∨ j = .ofMembers [(w, .null)] := by
  constructor
  · intro h
    rw [tag?.eq_def] at h
    split at h
    · exact .inl (congrArg Json.string h)
    · subst h
      exact .inr rfl
    · cases h
  · rintro (rfl | rfl) <;> rfl

end Json

theorem Dialect.ofJson?_eq_some_iff {j : Json} {d : Dialect} :
    ofJson? j = some d ↔ IsTag d.words j := by
  simp only [ofJson?, Option.bind_eq_some_iff, Json.tag?_eq_some_iff, ofWord?_eq_some_iff]
  exact exists_congr fun w => and_comm

theorem Mode.ofJson?_eq_some_iff {j : Json} {m : Mode} :
    ofJson? j = some m ↔ IsTag m.words j := by
  simp only [ofJson?, Option.bind_eq_some_iff, Json.tag?_eq_some_iff, ofWord?_eq_some_iff]
  exact exists_congr fun w => and_comm

namespace Context

theorem modeOfJson?_eq_some_iff {o : Option Json} {mode : Option Mode} :
    modeOfJson? o = some mode ↔ DeclaresMode o mode := by
  have hnull (m : Mode) : ¬ IsTag m.words .null := by
    rintro ⟨w, -, h | h⟩ <;> cases h
  rw [modeOfJson?.eq_def]
  cases mode with
  | none => split <;> simp_all [DeclaresMode]
  | some m =>
    split
    · simp [DeclaresMode]
    · simp [DeclaresMode, hnull]
    · simp [DeclaresMode, Mode.ofJson?_eq_some_iff]

theorem fields?_eq_some_iff {j d : Json} {m : Option Json} :
    fields? j = some (d, m) ↔ Gives j d m := by
  constructor
  · intro h
    rw [fields?.eq_def] at h
    split at h
    · cases h
      exact .dialect d
    · cases h
      exact .both d _
    · simp only [Option.bind_eq_bind, Option.bind_eq_some_iff, Json.required?_eq_some_iff,
        Json.member?_eq_some_iff] at h
      obtain ⟨ms, hms, d, hdialect, m, hmode, ⟨⟩⟩ := h
      rw [Json.eq_ofMembers_of_members? hms]
      exact .members hdialect hmode
  · intro h
    cases h with
    | dialect d => rfl
    | both d m => rfl
    | members hdialect hmode =>
      show (Json.members? _).bind _ = _
      rw [Json.members?_ofMembers, Option.bind_some, Json.required?_eq_some_iff.2 hdialect]
      show (Json.member? _ _).bind _ = _
      rw [Json.member?_eq_some_iff.2 hmode]
      rfl

theorem ofJson?_eq_some_iff {j : Json} {ctx : Context} :
    ofJson? j = some ctx ↔ ∃ d m, Gives j d m ∧ IsTag ctx.dialect.words d ∧
      DeclaresMode m ctx.modeSetting := by
  simp only [ofJson?, Option.bind_eq_bind, Option.bind_eq_some_iff, Prod.exists,
    fields?_eq_some_iff, Dialect.ofJson?_eq_some_iff, modeOfJson?_eq_some_iff]
  constructor
  · rintro ⟨d, m, hgives, _, hd, _, hm, ⟨⟩⟩
    exact ⟨d, m, hgives, hd, hm⟩
  · rintro ⟨d, m, hgives, hd, hm⟩
    exact ⟨d, m, hgives, _, hd, _, hm, rfl⟩

theorem read?_eq_some_iff {t : String} {ctx : Context} : read? t = some ctx ↔ Declares t ctx := by
  simp only [read?, Option.bind_eq_some_iff, ofJson?_eq_some_iff, Declares, exists_and_left]

end Context

/-! ### Sources -/

/-- What a configuration file says, if there is one. -/
inductive ConfigSays : Option ConfigFile → Option Context → Prop
  | absent : ConfigSays none none
  | text {t : String} {ctx : Context} (h : Declares t ctx) : ConfigSays (some (.text t)) (some ctx)

/-- How a configuration file fails. -/
inductive ConfigFails : Option ConfigFile → ConfigError → Prop
  | unreadable (reason : FileError) : ConfigFails (some (.unreadable reason)) (.unreadable reason)
  | malformed {t : String} (h : ∀ ctx, ¬ Declares t ctx) : ConfigFails (some (.text t)) .malformed

/-- What a URL says, if there is one. -/
inductive UrlSays : Option String → Option Context → Prop
  | absent : UrlSays none none
  | url {url : String} {ctx : Context} (h : Context.ofUrl url = .ok ctx) :
      UrlSays (some url) (some ctx)

/-- How a URL fails. -/
inductive UrlFails : Option String → ConfigError → Prop
  | refused {url : String} {e : Error} (h : Context.ofUrl url = .error e) :
      UrlFails (some url) (.url e)

theorem configSays_or_fails (config : Option ConfigFile) :
    (∃ c, ConfigSays config c) ∨ ∃ e, ConfigFails config e := by
  rcases config with _ | reason | t
  · exact .inl ⟨none, .absent⟩
  · exact .inr ⟨_, .unreadable reason⟩
  · by_cases h : ∃ ctx, Declares t ctx
    · obtain ⟨ctx, h⟩ := h
      exact .inl ⟨some ctx, .text h⟩
    · exact .inr ⟨_, .malformed (not_exists.1 h)⟩

theorem urlSays_or_fails (url : Option String) :
    (∃ u, UrlSays url u) ∨ ∃ e, UrlFails url e := by
  cases url with
  | none => exact .inl ⟨none, .absent⟩
  | some url =>
    cases h : Context.ofUrl url with
    | ok ctx => exact .inl ⟨some ctx, .url h⟩
    | error e => exact .inr ⟨_, .refused h⟩

/-! ### All sources -/

namespace ContextSources

variable {s : ContextSources} {c u : Option Context} {e : ConfigError}

theorem configured_eq_ok (h : ConfigSays s.config c) :
    s.configured = .ok (c.getD .standard) := by
  rw [configured]
  generalize s.config = config at h
  cases h with
  | absent => rfl
  | text h => simp only [Context.read?_eq_some_iff.2 h, Option.getD_some]

theorem configured_eq_error (h : ConfigFails s.config e) : s.configured = .error e := by
  rw [configured]
  generalize s.config = config at h
  cases h with
  | unreadable reason => rfl
  | @malformed t h =>
    have hread : Context.read? t = none :=
      Option.eq_none_iff_forall_ne_some.2 fun ctx hctx => h ctx (Context.read?_eq_some_iff.1 hctx)
    simp only [hread]

theorem connected_eq_ok (h : UrlSays s.url u) (base : Context) :
    s.connected base = .ok (u.getD base) := by
  rw [connected]
  generalize s.url = url at h
  cases h with
  | absent => rfl
  | url h => simp only [h, Except.mapError, Option.getD_some]

theorem connected_eq_error (h : UrlFails s.url e) (base : Context) :
    s.connected base = .error e := by
  rw [connected]
  generalize s.url = url at h
  cases h with
  | refused h => simp only [h, Except.mapError]

theorem resolve_eq_ok (hc : ConfigSays s.config c) (hu : UrlSays s.url u) :
    s.resolve = .ok (s.overridden ((u.or c).getD .standard)) := by
  rw [resolve, configured_eq_ok hc]
  show (s.connected (c.getD .standard)).bind _ = _
  rw [connected_eq_ok hu]
  cases u <;> rfl

/-- A configuration file fails even where a URL would take its place. -/
theorem resolve_eq_error_of_config (h : ConfigFails s.config e) : s.resolve = .error e := by
  rw [resolve, configured_eq_error h]
  rfl

theorem resolve_eq_error_of_url (hc : ConfigSays s.config c) (h : UrlFails s.url e) :
    s.resolve = .error e := by
  rw [resolve, configured_eq_ok hc]
  show (s.connected (c.getD .standard)).bind _ = _
  rw [connected_eq_error h]
  rfl

/-- What the sources say: the URL, or else the file, and the dialect and the mode on top of it. -/
theorem resolve_eq_ok_iff {ctx : Context} : s.resolve = .ok ctx ↔ ∃ c u, ConfigSays s.config c ∧
    UrlSays s.url u ∧ ctx = s.overridden ((u.or c).getD .standard) := by
  constructor
  · intro h
    obtain ⟨c, hc⟩ | ⟨e, he⟩ := configSays_or_fails s.config
    · obtain ⟨u, hu⟩ | ⟨e, he⟩ := urlSays_or_fails s.url
      · rw [resolve_eq_ok hc hu] at h
        exact ⟨c, u, hc, hu, (Except.ok.inj h).symm⟩
      · rw [resolve_eq_error_of_url hc he] at h
        cases h
    · rw [resolve_eq_error_of_config he] at h
      cases h
  · rintro ⟨c, u, hc, hu, rfl⟩
    exact resolve_eq_ok hc hu

/-- The sources fail where the file does, or else where the URL does. -/
theorem resolve_eq_error_iff : s.resolve = .error e ↔
    ConfigFails s.config e ∨ (∃ c, ConfigSays s.config c) ∧ UrlFails s.url e := by
  constructor
  · intro h
    obtain ⟨c, hc⟩ | ⟨e', he⟩ := configSays_or_fails s.config
    · obtain ⟨u, hu⟩ | ⟨e', he⟩ := urlSays_or_fails s.url
      · rw [resolve_eq_ok hc hu] at h
        cases h
      · rw [resolve_eq_error_of_url hc he] at h
        exact .inr ⟨⟨c, hc⟩, Except.error.inj h ▸ he⟩
    · rw [resolve_eq_error_of_config he] at h
      exact .inl (Except.error.inj h ▸ he)
  · rintro (h | ⟨⟨c, hc⟩, h⟩)
    · exact resolve_eq_error_of_config h
    · exact resolve_eq_error_of_url hc h

/-- What is given by itself comes first, field by field. -/
theorem overridden_getD (given : Option Context) : s.overridden (given.getD .standard)
    = ⟨(s.dialect.or (given.map Context.dialect)).getD .generic,
        s.mode.or (given.bind Context.modeSetting)⟩ := by
  rw [overridden]
  cases given <;> cases s.dialect <;> rfl

/-- The file and the URL are read before anything is put on top of them. -/
theorem map_resolve {α : Type} (f : Context → α) :
    s.resolve.map f = (s.configured.bind s.connected).map fun ctx => f (s.overridden ctx) := by
  rw [resolve]
  cases s.configured with
  | error e => rfl
  | ok base =>
    show ((s.connected base).bind fun ctx => .ok (s.overridden ctx)).map f
      = (s.connected base).map fun ctx => f (s.overridden ctx)
    cases s.connected base <;> rfl

theorem modeSetting_resolve (s : ContextSources) (d : Option Dialect) :
    ({ s with dialect := d } : ContextSources).resolve.map Context.modeSetting
      = s.resolve.map Context.modeSetting := by
  rw [map_resolve, map_resolve]
  rfl

theorem dialect_resolve (s : ContextSources) (m : Option Mode) :
    ({ s with mode := m } : ContextSources).resolve.map Context.dialect
      = s.resolve.map Context.dialect := by
  rw [map_resolve, map_resolve]
  rfl

theorem connected_eq_of_url (hurl : s.url.isSome) (base other : Context) :
    s.connected base = s.connected other := by
  obtain ⟨url, hurl⟩ := Option.isSome_iff_exists.1 hurl
  rw [connected, connected, hurl]

/-- Where there is a URL, nothing but its own failure is left of a configuration file. -/
theorem resolve_eq_of_url (hc : ConfigSays s.config c) (hurl : s.url.isSome) :
    s.resolve = ({ s with config := none } : ContextSources).resolve := by
  rw [resolve, configured_eq_ok hc]
  show (s.connected (c.getD .standard)).bind _ = (s.connected .standard).bind _
  rw [connected_eq_of_url hurl _ .standard]
  rfl

end ContextSources

/-- **Sources override each other field by field.** Deciding on a context fails exactly if the
configuration file cannot be read or says no context, or else if the URL is refused, whatever else
is given. Otherwise the dialect is the one that is given by itself, or that of the URL, or that of
the file, or the generic one; and the mode means something for H2 only, where it is the one that is
given by itself, or what the URL says of it, or, without a URL, what the file says of it, and the
regular one if this is nothing. So what is given by itself leaves the other field alone, and a URL
replaces both fields of the file. -/
theorem contextSources_resolve (s : ContextSources) :
    (∀ e, s.resolve = .error e ↔
      ConfigFails s.config e ∨ (∃ c, ConfigSays s.config c) ∧ UrlFails s.url e) ∧
    (∀ ctx, s.resolve = .ok ctx ↔ ∃ c u, ConfigSays s.config c ∧ UrlSays s.url u ∧
      ctx.dialect = (s.dialect.or ((u.or c).map Context.dialect)).getD .generic ∧
      ctx.modeSetting = s.mode.or ((u.or c).bind Context.modeSetting) ∧
      ctx.mode? = if ctx.dialect = .h2
        then some ((s.mode.or ((u.or c).bind Context.modeSetting)).getD .regular) else none) ∧
    (∀ d, ({ s with dialect := d } : ContextSources).resolve.map Context.modeSetting
      = s.resolve.map Context.modeSetting) ∧
    (∀ m, ({ s with mode := m } : ContextSources).resolve.map Context.dialect
      = s.resolve.map Context.dialect) ∧
    (∀ c, ConfigSays s.config c → s.url.isSome →
      s.resolve = ({ s with config := none } : ContextSources).resolve) := by
  refine ⟨fun e => s.resolve_eq_error_iff, fun ctx => ?_, s.modeSetting_resolve, s.dialect_resolve,
    fun c => s.resolve_eq_of_url⟩
  rw [ContextSources.resolve_eq_ok_iff]
  refine exists_congr fun c => exists_congr fun u =>
    and_congr_right fun _ => and_congr_right fun _ => ?_
  rw [ContextSources.overridden_getD]
  -- The two fields are all of a context: its mode follows from them.
  constructor
  · rintro rfl
    exact ⟨rfl, rfl, rfl⟩
  · rintro ⟨hdialect, hmode, -⟩
    rw [← hdialect, ← hmode]

/-- A mode that a configuration file sets is not the mode of an H2 database that is asked for by
itself, if a URL stands between them. -/
theorem contextSources_resolve_urlBetween :
    ContextSources.resolve ⟨some (.text "[\"h2\",\x7b\"oracle\":null\x7d]"), some "mysql://h",
        some .h2, none⟩ =
      ContextSources.resolve ⟨none, some "mysql://h", some .h2, none⟩ := by
  have hread : Json.read? "[\"h2\",\x7b\"oracle\":null\x7d]"
      = some (.array [.ofString "h2", .ofMembers [("oracle", .null)]]) := rfl
  have hmode : DeclaresMode (some (.ofMembers [("oracle", .null)])) (some .oracle) :=
    ⟨_, rfl, "oracle", by decide, .inr rfl⟩
  refine (contextSources_resolve _).2.2.2.2 (some (.h2 .oracle)) (.text ?_) rfl
  exact ⟨_, _, _, hread, .both _ _, ⟨"h2", by decide, .inl rfl⟩, hmode⟩

end SqlUpdate
