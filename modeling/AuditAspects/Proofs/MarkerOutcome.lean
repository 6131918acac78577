import AuditAspects.Config
import AuditAspects.Entries
import Mathlib.Data.List.DropRight
import Mathlib.Data.List.Sort

/-!
# The outcome of reading a marker

A marker is refused for one of three reasons (`MarkerFault`).  It gives a value to the
receiver; or some of its names belong to no key, and then all of these are reported, in
ascending order; or the value of a key is neither absent nor a text, and then the first such
key in the order of declaration is reported.  An earlier reason hides the later ones.

A marker that is read gives each key the override that takes effect: the text of its entry,
exactly as it stands, if stripping the text of blanks at its two ends leaves something.

None of this hangs on the order of the entries, of which no two have one name.
`markerOutcome` says so.
-/

namespace AuditAspects

/-! ## Stripped texts -/

namespace Text

/-- A text without the blank characters at its two ends. -/
def strip (s : String) : String :=
  String.ofList ((s.toList.dropWhile isBlankChar).rdropWhile isBlankChar)

/-- Stripping leaves nothing of a text exactly if no character of it leaves a mark. -/
theorem strip_eq_empty_iff {s : String} : strip s = "" ↔ isBlank s := by
  have hempty : strip s = "" ↔ ∀ c ∈ s.toList.dropWhile isBlankChar, isBlankChar c := by
    rw [strip, ← List.rdropWhile_eq_nil_iff, ← String.toList_inj, String.toList_ofList,
      String.toList_empty]
  rw [hempty, isBlank, List.all_eq_true]
  constructor
  · intro h c hc
    rw [← List.takeWhile_append_dropWhile (p := isBlankChar) (l := s.toList)] at hc
    rcases List.mem_append.mp hc with hfront | hrest
    · exact List.mem_takeWhile_imp hfront
    · exact h c hrest
  · intro h c hc
    exact h c ((List.dropWhile_suffix _).subset hc)

end Text

/-! ## Names and values of a marker -/

/-- The names of the entries of a marker. -/
def Marker.names (m : Marker) : List String := m.map Prod.fst

/-- A name that belongs to no key. -/
def ConfigKey.Unknown (s : String) : Prop := ∀ k : ConfigKey, k.name ≠ s

/-- Every name of a marker belongs to a key. -/
def Marker.Known (m : Marker) : Prop := ∀ s ∈ m.names, ¬ConfigKey.Unknown s

namespace Marker

variable {m : Marker}

theorem mem_names {s : String} {v : Value} (h : (s, v) ∈ m) : s ∈ m.names :=
  List.mem_map_of_mem h

theorem lookup_isSome_iff {s : String} : (m.lookup s).isSome ↔ s ∈ m.names := by
  rw [Option.isSome_iff_ne_none, Ne, Entries.lookup_eq_none_iff, not_not, names]

/-- A marker is known exactly if no key of it is unknown. -/
theorem known_iff : m.Known ↔ ¬∃ s ∈ m.names, ConfigKey.Unknown s := by
  simp only [Known, not_exists, not_and]

/-- In a known marker every key is that of a setting. -/
theorem Known.exists_key (h : m.Known) {s : String} (hs : s ∈ m.names) :
    ∃ k : ConfigKey, k.name = s := by
  have hunknown : ¬∀ k : ConfigKey, k.name ≠ s := h s hs
  simpa using hunknown

end Marker

/-- A value that a key may have: none, or a text. -/
def Value.isSetting : Value → Bool
  | .null | .text _ => true
  | _ => false

/-- A fault of the configuration, with a message. -/
def Fault.Reports (f : Fault) (message : String) : Prop :=
  f.kind = .configuration ∧ f.message = message

/-- The names of the keys, as a message lists them. -/
def ConfigKey.listed : String :=
  "['created_date_column', 'modified_date_column', 'created_by_column', 'modified_by_column']"

/-- The message about unknown keys lists them, and the keys that are known. -/
theorem Fault.reports_unknownKeys (names : List String) :
    (Fault.unknownKeys names).Reports
      ("Unknown audit configuration keys: " ++ Value.quotedTexts names ++ ". Expected any of " ++
        ConfigKey.listed) := by
  have hlisted : Value.quotedTexts (ConfigKey.all.map ConfigKey.name) = ConfigKey.listed := by
    decide +kernel
  rw [← hlisted]
  exact ⟨rfl, rfl⟩

namespace Config

open ConfigKey (Unknown)

/-- Why a marker is refused. -/
inductive MarkerFault (m : Marker) : Fault → Prop
  /-- It gives a value to the receiver, whatever else it holds. -/
  | receiver (hreceiver : receiverName ∈ m.names) : MarkerFault m .receiverGiven
  /-- Some of its names are unknown.  These are the names reported, in ascending order. -/
  | unknown {names : List String} (hreceiver : receiverName ∉ m.names) (hne : names ≠ [])
      (hasc : names.Pairwise (· < ·)) (hmem : ∀ s, s ∈ names ↔ s ∈ m.names ∧ Unknown s) :
      MarkerFault m (.unknownKeys names)
  /-- All names are known.  The key reported is the first one, in the order of declaration,
  whose value it may not have. -/
  | misfit {before after : List ConfigKey} {k : ConfigKey} {v : Value} (hknown : m.Known)
      (hkeys : ConfigKey.all = before ++ k :: after)
      (hbefore : ∀ l ∈ before, ∀ w, (l.name, w) ∈ m → w.isSetting)
      (hmem : (k.name, v) ∈ m) (hv : v.isSetting = false) :
      MarkerFault m (.settingNotText k v.kindName)

/-- What reading a marker comes to. -/
structure MarkerOutcome (m : Marker) : Prop where
  /-- It is refused for one of three reasons. -/
  refused_iff : ∀ f, ofMarker m = .error f ↔ MarkerFault m f
  /-- Unless the receiver is named, it is refused for unknown names exactly if some name
  belongs to no key. -/
  unknown_iff : receiverName ∉ m.names →
    ((∃ names, ofMarker m = .error (.unknownKeys names)) ↔ ∃ s ∈ m.names, Unknown s)
  /-- Then the values do not matter. -/
  unknown_values : (∃ s ∈ m.names, Unknown s) →
    ∀ m' : Marker, m'.names = m.names → ofMarker m' = ofMarker m
  /-- The message lists the unknown names. -/
  unknown_reports : ∀ names, ofMarker m = .error (.unknownKeys names) →
    (Fault.unknownKeys names).Reports
      ("Unknown audit configuration keys: " ++ Value.quotedTexts names ++ ". Expected any of " ++
        ConfigKey.listed)
  /-- If all names are known, it is refused for a value exactly if some value is neither
  absent nor a text. -/
  misfit_iff : m.Known →
    ((∃ k kindName, ofMarker m = .error (.settingNotText k kindName)) ↔
      ∃ e ∈ m, e.2.isSetting = false)
  /-- The message gives the key and what kind of value it has. -/
  misfit_reports : ∀ k kindName, ofMarker m = .error (.settingNotText k kindName) →
    (Fault.settingNotText k kindName).Reports
      ("'" ++ k.name ++ "' must be a string or None, got " ++ kindName)
  /-- It is read exactly if all names are known and all values are absent or texts. -/
  read_iff : (∃ c, ofMarker m = .ok c) ↔ m.Known ∧ ∀ e ∈ m, e.2.isSetting
  /-- The override of a key is the text of its entry, as given, if some character of the
  text leaves a mark. -/
  column_iff : ∀ c, ofMarker m = .ok c → ∀ (k : ConfigKey) s,
    c.columnOf (.text k.name) = .ok (some s) ↔
      (k.name, .text s) ∈ m ∧ ∃ a ∈ s.toList, Text.isBlankChar a = false
  /-- A key has no override if it has no entry, no value, or a text of which stripping leaves
  nothing. -/
  column_none_iff : ∀ c, ofMarker m = .ok c → ∀ k : ConfigKey,
    c.columnOf (.text k.name) = .ok none ↔
      k.name ∉ m.names ∨ (k.name, .null) ∈ m ∨ ∃ s, (k.name, .text s) ∈ m ∧ Text.strip s = ""
  /-- Asking for anything else is refused. -/
  column_refused : ∀ c, ofMarker m = .ok c → ∀ key, (∀ k : ConfigKey, key ≠ .text k.name) →
    ∃ f, c.columnOf key = .error f ∧
      f.Reports ("Unknown audit configuration key '" ++ key.plain ++ "'")
  /-- The order of the entries does not matter. -/
  order : ∀ m' : Marker, m'.Perm m → ofMarker m' = ofMarker m

variable {m : Marker}

theorem unknown_receiverName : Unknown receiverName := by
  intro k
  cases k <;> decide

/-! ## Unknown names -/

theorem mem_unknownNames_iff {s : String} :
    s ∈ unknownNames m ↔ s ∈ m.names ∧ Unknown s := by
  rw [unknownNames, sortTexts, mem_sortBy, List.mem_filter, Option.isNone_iff_eq_none,
    ConfigKey.ofName?_eq_none_iff]
  rfl

/-- A marker is known exactly if it has no unknown keys to report. -/
theorem unknownNames_eq_nil_iff : unknownNames m = [] ↔ m.Known := by
  rw [List.eq_nil_iff_forall_not_mem]
  simp only [mem_unknownNames_iff, not_and, Marker.Known]

/-- Unknown keys are reported in ascending order. -/
theorem unknownNames_pairwise_lt (h : m.names.Nodup) : (unknownNames m).Pairwise (· < ·) :=
  sortTexts_pairwise_lt (h.filter _)

/-- The unknown names are the only ascending list of their members. -/
theorem eq_unknownNames (h : m.names.Nodup) {names : List String}
    (hasc : names.Pairwise (· < ·)) (hmem : ∀ s, s ∈ names ↔ s ∈ m.names ∧ Unknown s) :
    names = unknownNames m := by
  refine hasc.eq_of_mem_iff (unknownNames_pairwise_lt h) fun s => ?_
  rw [hmem s, mem_unknownNames_iff]

/-! ## The order of the reasons -/

theorem ofMarker_of_receiver (h : receiverName ∈ m.names) :
    ofMarker m = .error .receiverGiven := by
  rw [ofMarker, if_pos (Marker.lookup_isSome_iff.mpr h)]

theorem ofMarker_of_unknown (hreceiver : receiverName ∉ m.names) (h : ¬m.Known) :
    ofMarker m = .error (.unknownKeys (unknownNames m)) := by
  have hne : unknownNames m ≠ [] := fun hnil => h (unknownNames_eq_nil_iff.mp hnil)
  rw [ofMarker, if_neg (fun hsome => hreceiver (Marker.lookup_isSome_iff.mp hsome)), if_pos hne]

/-- A known marker is read setting by setting. -/
theorem ofMarker_of_known (h : m.Known) : ofMarker m = ofSettings m := by
  have hreceiver : ¬(m.lookup receiverName).isSome := by
    intro hsome
    exact h receiverName (Marker.lookup_isSome_iff.mp hsome) unknown_receiverName
  have hnil : ¬unknownNames m ≠ [] := not_not_intro (unknownNames_eq_nil_iff.mpr h)
  rw [ofMarker, if_neg hreceiver, if_neg hnil]

theorem known_of_ofMarker {c : Config} (hc : ofMarker m = .ok c) : m.Known := by
  by_contra hunknown
  by_cases hreceiver : receiverName ∈ m.names
  · rw [ofMarker_of_receiver hreceiver] at hc
    cases hc
  · rw [ofMarker_of_unknown hreceiver hunknown] at hc
    cases hc

/-! ## The values of the keys -/

/-- What a marker gives for a key. -/
inductive Gives (m : Marker) (k : ConfigKey) : Except Fault (Option String) → Prop
  /-- There is no entry. -/
  | absent (hnot : k.name ∉ m.names) : Gives m k (.ok none)
  /-- The entry has no value. -/
  | null (hmem : (k.name, .null) ∈ m) : Gives m k (.ok none)
  /-- The entry has a text. -/
  | text {s : String} (hmem : (k.name, .text s) ∈ m) : Gives m k (.ok (some s))
  /-- The entry has a value that the key may not have. -/
  | misfit {v : Value} (hmem : (k.name, v) ∈ m) (hv : v.isSetting = false) :
      Gives m k (.error (.settingNotText k v.kindName))

/-- A setting is left open by a key that is missing or null. -/
theorem gives_none_iff {k : ConfigKey} :
    Gives m k (.ok none) ↔ k.name ∉ m.names ∨ (k.name, .null) ∈ m := by
  constructor
  · intro h
    cases h with
    | absent hnot => exact .inl hnot
    | null hmem => exact .inr hmem
  · intro h
    cases h with
    | inl hnot => exact .absent hnot
    | inr hmem => exact .null hmem

/-- A setting is a text exactly if its key has that text. -/
theorem gives_some_iff {k : ConfigKey} {s : String} :
    Gives m k (.ok (some s)) ↔ (k.name, .text s) ∈ m := by
  constructor
  · intro h
    cases h with
    | text hmem => exact hmem
  · exact .text

/-- A setting is read just as the marker gives it. -/
theorem setting_eq_iff (h : m.names.Nodup) {k : ConfigKey} {r : Except Fault (Option String)} :
    setting m k = r ↔ Gives m k r := by
  have hlookup : ∀ {v}, m.lookup k.name = some v ↔ (k.name, v) ∈ m := Entries.lookup_eq_some_iff h
  constructor
  · intro hr
    rw [← hr, setting]
    cases hv : m.lookup k.name with
    | none => exact .absent (Entries.lookup_eq_none_iff.mp hv)
    | some v =>
        have hmem := hlookup.mp hv
        cases v with
        | null => exact .null hmem
        | text s => exact .text hmem
        | _ => exact .misfit hmem rfl
  · intro hr
    rw [setting]
    cases hr with
    | absent hnot => rw [Entries.lookup_eq_none_iff.mpr hnot]
    | null hmem => rw [hlookup.mpr hmem]
    | text hmem => rw [hlookup.mpr hmem]
    | @misfit v hmem hv =>
        rw [hlookup.mpr hmem]
        cases v with
        | null => cases hv
        | text s => cases hv
        | _ => rfl

/-- A setting can be read exactly if no other kind of value stands under its key. -/
theorem exists_setting_iff (h : m.names.Nodup) {k : ConfigKey} :
    (∃ o, setting m k = .ok o) ↔ ∀ v, (k.name, v) ∈ m → v.isSetting := by
  cases hk : setting m k with
  | ok o =>
      refine iff_of_true ⟨o, rfl⟩ fun v hmem => ?_
      by_contra hv
      have hmisfit := (setting_eq_iff h).mpr (.misfit hmem (Bool.eq_false_of_not_eq_true hv))
      rw [hk] at hmisfit
      cases hmisfit
  | error f =>
      cases (setting_eq_iff h).mp hk with
      | @misfit v hmem hv =>
          refine iff_of_false nofun fun hfits => ?_
          rw [hfits v hmem] at hv
          cases hv

/-- The fault of a key, if it is given a value that it may not have. -/
def settingFault? (m : Marker) (k : ConfigKey) : Option Fault :=
  match setting m k with
  | .ok _ => none
  | .error f => some f

theorem settingFault?_eq_some_iff {k : ConfigKey} {f : Fault} :
    settingFault? m k = some f ↔ setting m k = .error f := by
  rw [settingFault?]
  cases setting m k with
  | ok o => simp
  | error g => simp

theorem settingFault?_eq_none_iff {k : ConfigKey} :
    settingFault? m k = none ↔ ∃ o, setting m k = .ok o := by
  rw [settingFault?]
  cases setting m k with
  | ok o => simp
  | error g => simp

/-- The settings are read up to the first key that has a fault. -/
theorem ofSettings_cases (m : Marker) :
    (∃ f, ofSettings m = .error f ∧ ConfigKey.all.findSome? (settingFault? m) = some f) ∨
      ∃ c, ofSettings m = .ok c ∧ ∀ k, setting m k = .ok (c.override? k) := by
  simp only [ofSettings, ConfigKey.all, List.findSome?_cons, List.findSome?_nil, settingFault?]
  cases h₁ : setting m .createdDateColumn with
  | error f => exact .inl ⟨f, rfl, rfl⟩
  | ok createdDate =>
  cases h₂ : setting m .modifiedDateColumn with
  | error f => exact .inl ⟨f, rfl, rfl⟩
  | ok modifiedDate =>
  cases h₃ : setting m .createdByColumn with
  | error f => exact .inl ⟨f, rfl, rfl⟩
  | ok createdBy =>
  cases h₄ : setting m .modifiedByColumn with
  | error f => exact .inl ⟨f, rfl, rfl⟩
  | ok modifiedBy =>
      refine .inr ⟨⟨createdDate, modifiedDate, createdBy, modifiedBy⟩, rfl, fun k => ?_⟩
      cases k with
      | createdDateColumn => exact h₁
      | modifiedDateColumn => exact h₂
      | createdByColumn => exact h₃
      | modifiedByColumn => exact h₄

theorem setting_of_ofSettings {c : Config} (h : ofSettings m = .ok c) (k : ConfigKey) :
    setting m k = .ok (c.override? k) := by
  rcases ofSettings_cases m with ⟨f, hf, -⟩ | ⟨d, hd, hsettings⟩
  · rw [h] at hf
    cases hf
  · rw [h] at hd
    cases hd
    exact hsettings k

/-- Reading the settings fails for the first, in the order of the keys, that cannot be read. -/
theorem ofSettings_eq_error_iff {f : Fault} :
    ofSettings m = .error f ↔
      ∃ before k after, ConfigKey.all = before ++ k :: after ∧ setting m k = .error f ∧
        ∀ l ∈ before, ∃ o, setting m l = .ok o := by
  have hfirst : ConfigKey.all.findSome? (settingFault? m) = some f ↔
      ∃ before k after, ConfigKey.all = before ++ k :: after ∧ setting m k = .error f ∧
        ∀ l ∈ before, ∃ o, setting m l = .ok o := by
    simp only [List.findSome?_eq_some_iff, settingFault?_eq_some_iff, settingFault?_eq_none_iff]
  rw [← hfirst]
  rcases ofSettings_cases m with ⟨g, hg, hfind⟩ | ⟨c, hc, hsettings⟩
  · rw [hg, hfind, Option.some.injEq, Except.error.injEq]
  · have hall : ConfigKey.all.findSome? (settingFault? m) = none :=
      List.findSome?_eq_none_iff.mpr fun k _ =>
        settingFault?_eq_none_iff.mpr ⟨_, hsettings k⟩
    rw [hc, hall]
    exact iff_of_false nofun nofun

/-! ## The outcome -/

/-- The reasons are all there are, and each is met as it is described. -/
theorem ofMarker_eq_error_iff (h : m.names.Nodup) {f : Fault} :
    ofMarker m = .error f ↔ MarkerFault m f := by
  constructor
  · intro hf
    by_cases hreceiver : receiverName ∈ m.names
    · rw [ofMarker_of_receiver hreceiver] at hf
      cases hf
      exact .receiver hreceiver
    by_cases hknown : m.Known
    · rw [ofMarker_of_known hknown, ofSettings_eq_error_iff] at hf
      obtain ⟨before, k, after, hkeys, hk, hbefore⟩ := hf
      rw [setting_eq_iff h] at hk
      cases hk with
      | misfit hmem hv =>
          exact .misfit hknown hkeys (fun l hl => (exists_setting_iff h).mp (hbefore l hl)) hmem hv
    · rw [ofMarker_of_unknown hreceiver hknown] at hf
      cases hf
      exact .unknown hreceiver (fun hnil => hknown (unknownNames_eq_nil_iff.mp hnil))
        (unknownNames_pairwise_lt h) fun s => mem_unknownNames_iff
  · intro hf
    cases hf with
    | receiver hreceiver => exact ofMarker_of_receiver hreceiver
    | unknown hreceiver hne hasc hmem =>
        have hnames := eq_unknownNames h hasc hmem
        subst hnames
        exact ofMarker_of_unknown hreceiver fun hknown => hne (unknownNames_eq_nil_iff.mpr hknown)
    | @misfit before after k v hknown hkeys hbefore hmem hv =>
        rw [ofMarker_of_known hknown, ofSettings_eq_error_iff]
        exact ⟨before, k, after, hkeys, (setting_eq_iff h).mpr (.misfit hmem hv),
          fun l hl => (exists_setting_iff h).mpr (hbefore l hl)⟩

/-- A marker gives a configuration exactly if it is known and holds only texts and nulls. -/
theorem exists_ofMarker_iff (h : m.names.Nodup) :
    (∃ c, ofMarker m = .ok c) ↔ m.Known ∧ ∀ e ∈ m, e.2.isSetting := by
  constructor
  · intro hread
    obtain ⟨c, hc⟩ := hread
    have hknown : m.Known := known_of_ofMarker hc
    refine ⟨hknown, fun e he => ?_⟩
    obtain ⟨k, hk⟩ := hknown.exists_key (Marker.mem_names he)
    rw [ofMarker_of_known hknown] at hc
    exact (exists_setting_iff h).mp ⟨_, setting_of_ofSettings hc k⟩ e.2 (hk ▸ he)
  · intro hfits
    obtain ⟨hknown, hvalues⟩ := hfits
    rw [ofMarker_of_known hknown]
    rcases ofSettings_cases m with ⟨f, hf, -⟩ | ⟨c, hc, -⟩
    · obtain ⟨-, k, -, -, hk, -⟩ := ofSettings_eq_error_iff.mp hf
      obtain ⟨o, ho⟩ := (exists_setting_iff h).mpr fun v hmem => hvalues _ hmem
      rw [hk] at ho
      cases ho
    · exact ⟨c, hc⟩

/-- Unknown keys are reported exactly if there is one. -/
theorem exists_unknownKeys_iff (h : m.names.Nodup) (hreceiver : receiverName ∉ m.names) :
    (∃ names, ofMarker m = .error (.unknownKeys names)) ↔ ∃ s ∈ m.names, Unknown s := by
  constructor
  · intro hf
    obtain ⟨names, hf⟩ := hf
    cases (ofMarker_eq_error_iff h).mp hf with
    | unknown _ hne _ hmem =>
        obtain ⟨s, hs⟩ := List.exists_mem_of_ne_nil names hne
        exact ⟨s, (hmem s).mp hs⟩
  · intro hunknown
    exact ⟨_, ofMarker_of_unknown hreceiver fun hknown => Marker.known_iff.mp hknown hunknown⟩

/-- A value of another kind is reported exactly if there is one. -/
theorem exists_settingNotText_iff (h : m.names.Nodup) (hknown : m.Known) :
    (∃ k kindName, ofMarker m = .error (.settingNotText k kindName)) ↔
      ∃ e ∈ m, e.2.isSetting = false := by
  constructor
  · intro hf
    obtain ⟨k, kindName, hf⟩ := hf
    cases (ofMarker_eq_error_iff h).mp hf with
    | misfit _ _ _ hmem hv => exact ⟨_, hmem, hv⟩
  · intro hmisfit
    obtain ⟨e, he, hv⟩ := hmisfit
    cases hread : ofMarker m with
    | ok c =>
        have hfits := ((exists_ofMarker_iff h).mp ⟨c, hread⟩).2 e he
        rw [hfits] at hv
        cases hv
    | error f =>
        rw [ofMarker_of_known hknown, ofSettings_eq_error_iff] at hread
        obtain ⟨-, k, -, -, hk, -⟩ := hread
        cases (setting_eq_iff h).mp hk with
        | misfit _ _ => exact ⟨_, _, rfl⟩

/-- A configuration overrides just what its marker gives. -/
theorem gives_of_ofMarker (h : m.names.Nodup) {c : Config} (hc : ofMarker m = .ok c)
    (k : ConfigKey) {o : Option String} : c.override? k = o ↔ Gives m k (.ok o) := by
  rw [ofMarker_of_known (known_of_ofMarker hc)] at hc
  rw [← setting_eq_iff h, setting_of_ofSettings hc k, Except.ok.injEq]

/-- The override that takes effect is the text of the entry, if some character of it leaves a
mark. -/
theorem columnFor_eq_some_iff_mem (h : m.names.Nodup) {c : Config} (hc : ofMarker m = .ok c)
    (k : ConfigKey) (s : String) :
    c.columnFor k = some s ↔
      (k.name, .text s) ∈ m ∧ ∃ a ∈ s.toList, Text.isBlankChar a = false := by
  rw [columnFor_eq_some_iff, gives_of_ofMarker h hc, gives_some_iff, Text.isBlank_eq_false_iff]

/-- A column stays open if its key is missing, null or blank. -/
theorem columnFor_eq_none_iff_mem (h : m.names.Nodup) {c : Config} (hc : ofMarker m = .ok c)
    (k : ConfigKey) :
    c.columnFor k = none ↔
      k.name ∉ m.names ∨ (k.name, .null) ∈ m ∨
        ∃ s, (k.name, .text s) ∈ m ∧ Text.strip s = "" := by
  rw [← or_assoc, ← gives_none_iff, ← gives_of_ofMarker h hc]
  simp only [← gives_some_iff, ← gives_of_ofMarker h hc, Text.strip_eq_empty_iff, columnFor]
  cases c.override? k with
  | none => simp
  | some s => simp

/-- Only the four keys can be asked for. -/
theorem columnOf_of_ne (c : Config) {key : Value} (h : ∀ k : ConfigKey, key ≠ .text k.name) :
    c.columnOf key = .error (.unknownKey key.plain) := by
  cases key with
  | text s =>
      have hs : ConfigKey.ofName? s = none := by
        rw [ConfigKey.ofName?_eq_none_iff]
        intro k hk
        exact h k (hk ▸ rfl)
      rw [columnOf, hs]
      rfl
  | _ => rfl

/-! ## Other orders and other values -/

/-- Unknown names are refused whatever the values. -/
theorem ofMarker_congr_names {m' : Marker} (hnames : m'.names = m.names) (h : ¬m.Known) :
    ofMarker m' = ofMarker m := by
  have hunknown : ¬m'.Known := by rwa [Marker.Known, hnames]
  by_cases hreceiver : receiverName ∈ m.names
  · rw [ofMarker_of_receiver hreceiver, ofMarker_of_receiver (hnames ▸ hreceiver)]
  · have hsame : unknownNames m' = unknownNames m :=
      congrArg (fun names : List String =>
        sortTexts (names.filter fun s => (ConfigKey.ofName? s).isNone)) hnames
    rw [ofMarker_of_unknown hreceiver h, ofMarker_of_unknown (hnames ▸ hreceiver) hunknown, hsame]

/-- The order of a marker's entries does not count. -/
theorem ofMarker_perm (h : m.names.Nodup) {m' : Marker} (hperm : m'.Perm m) :
    ofMarker m' = ofMarker m := by
  have hnames : m'.names.Perm m.names := hperm.map Prod.fst
  have hnodup : m'.names.Nodup := hnames.nodup_iff.mpr h
  have hlookup : ∀ s, m'.lookup s = m.lookup s := Entries.lookup_perm hperm hnodup
  have hunknown : unknownNames m' = unknownNames m := by
    refine eq_unknownNames h (unknownNames_pairwise_lt hnodup) fun s => ?_
    rw [mem_unknownNames_iff, hnames.mem_iff]
  simp only [ofMarker, ofSettings, setting, hlookup, hunknown]

/-- Every marker without a second entry of one name has this outcome. -/
theorem markerOutcome (h : m.names.Nodup) : MarkerOutcome m where
  refused_iff _ := ofMarker_eq_error_iff h
  unknown_iff := exists_unknownKeys_iff h
  unknown_values hunknown _ hnames :=
    ofMarker_congr_names hnames fun hknown => Marker.known_iff.mp hknown hunknown
  unknown_reports names _ := Fault.reports_unknownKeys names
  misfit_iff := exists_settingNotText_iff h
  misfit_reports _ _ _ := ⟨rfl, rfl⟩
  read_iff := exists_ofMarker_iff h
  column_iff c hc k s := by
    rw [columnOf_name, Except.ok.injEq, columnFor_eq_some_iff_mem h hc]
  column_none_iff c hc k := by
    rw [columnOf_name, Except.ok.injEq, columnFor_eq_none_iff_mem h hc]
  column_refused c _ _ hkey := ⟨_, c.columnOf_of_ne hkey, rfl, rfl⟩
  order _ hperm := ofMarker_perm h hperm

/-- A marker whose entries stand in another order than the keys.  Two keys have values that
they may not have, one has a blank text. -/
def twoMisfits : Marker :=
  [("modified_by_column", .int 1), ("created_by_column", .text "\t"),
    ("modified_date_column", .list [])]

theorem markerOutcome_twoMisfits :
    twoMisfits.names.Nodup ∧ MarkerOutcome twoMisfits ∧
      ofMarker twoMisfits = .error (.settingNotText .modifiedDateColumn "list") := by
  have hnodup : twoMisfits.names.Nodup := by decide
  exact ⟨hnodup, markerOutcome hnodup, rfl⟩

/-- A marker that names the receiver has an unknown name, and yet it is not refused for
that. -/
theorem ofMarker_receiverNamed :
    (∃ s ∈ Marker.names [(receiverName, .null)], Unknown s) ∧
      ofMarker [(receiverName, .null)] = .error .receiverGiven ∧
      Fault.receiverGiven.kind = .type ∧
      ¬∃ names, ofMarker [(receiverName, .null)] = .error (.unknownKeys names) := by
  have hgiven : ofMarker [(receiverName, .null)] = .error .receiverGiven :=
    ofMarker_of_receiver List.mem_cons_self
  refine ⟨⟨receiverName, List.mem_cons_self, unknown_receiverName⟩, hgiven, rfl, ?_⟩
  intro hunknown
  obtain ⟨names, hnames⟩ := hunknown
  rw [hgiven] at hnames
  cases hnames

end Config

end AuditAspects
