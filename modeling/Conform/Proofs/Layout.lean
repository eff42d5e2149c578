import Conform.ConfigError
import Conform.Proofs.FirstFailure

/-! Decoding by a table of fields. The table says which documents are accepted, as an object of the
fields or as an array of them in order, and what is reported of any other document. -/

namespace Conform

variable {α β : Type} {key : String} {d : Json} {wanted : Wanted}

namespace Json

/-- A document that says no more than a field that is left out. -/
def saysNothing : Json → Bool
  | null | boolean false => true
  | _ => false

theorem eq_of_saysNothing (h : d.saysNothing = true) : d = null ∨ d = boolean false := by
  cases d with
  | null => exact .inl rfl
  | boolean b =>
    cases b with
    | false => exact .inr rfl
    | true => cases h
  | _ => cases h

end Json

namespace Wanted

/-- What a field takes: null stands for no value, except that a boolean always has one. -/
def suits : Wanted → Json → Bool
  | string, .null | length, .null | number, .null => true
  | string, .string _ | number, .number _ | boolean, .boolean _ => true
  | length, .number (.integer n _) => 0 ≤ n
  | _, _ => false

/-- What is reported of a document that does not suit a field. -/
def fault : Wanted → Json → OptionsFault
  | length, .number (.integer n _) => .negativeLength n
  | wanted, d => .wrongType d wanted

end Wanted

/-- The fields of one kind of options, in order. -/
structure Layout where
  wanted : Wanted
  schema : List (String × Wanted)
  /-- How many elements an array of the fields has at least. -/
  required : Nat
  distinct : (schema.map (·.1)).Nodup
  required_le : required ≤ schema.length

namespace Layout

variable (layout : Layout)

def fields : List String := layout.schema.map (·.1)

/-- A field of this name, with a document that suits it. -/
def fits (entry : String × Json) : Bool :=
  (Entries.get? layout.schema entry.1).any (·.suits entry.2)

/-- What is reported of an entry that does not fit. -/
def fault (entry : String × Json) : OptionsFault :=
  match Entries.get? layout.schema entry.1 with
  | some wanted => wanted.fault entry.2
  | none => .unknownField entry.1 layout.fields

/-- The entries of a document: elements of an array belong to the fields in turn. -/
def entries : Json → List (String × Json)
  | .object members => members
  | .array items => layout.fields.zip items
  | _ => []

/-- Documents of options: objects of fields that fit, and arrays of all of them in order, of which
the last may be left out as far as `required` allows. -/
inductive IsDocument : Json → Prop where
  | object {members : List (String × Json)} : (∀ entry ∈ members, layout.fits entry = true) →
      IsDocument (.object members)
  | array {items : List Json} : layout.required ≤ items.length →
      items.length ≤ layout.fields.length →
      (∀ entry ∈ layout.fields.zip items, layout.fits entry = true) → IsDocument (.array items)

/-- What is reported of a document: its first entry that does not fit, or else that an array has too
few or too many elements, or that there is no object and no array. -/
inductive Rejects : Json → OptionsFault → Prop where
  | entry {d : Json} {before : List (String × Json)} {entry : String × Json} :
      FirstFailure layout.fits (layout.entries d) before entry → Rejects d (layout.fault entry)
  | missing {items : List Json} : (∀ entry ∈ layout.fields.zip items, layout.fits entry = true) →
      items.length < layout.required →
      Rejects (.array items) (.missingElements items.length layout.wanted layout.fields.length)
  | extra {items : List Json} : (∀ entry ∈ layout.fields.zip items, layout.fits entry = true) →
      layout.fields.length < items.length → Rejects (.array items) (.extraElements items.length)
  | scalar {d : Json} : (∀ members, d ≠ .object members) → (∀ items, d ≠ .array items) →
      Rejects d (.wrongType d layout.wanted)

/-- Sets fields one after another, up to the first entry that is at fault. -/
def fill (setField : α → String → Json → Except OptionsFault α) (o : α)
    (entries : List (String × Json)) : Except OptionsFault α :=
  entries.foldlM (fun o entry => setField o entry.1 entry.2) o

/-- To set fields from elements in order is to set them from the elements under their names. -/
theorem fill_zip (setField : α → String → Json → Except OptionsFault α)
    (setInOrder : α → List String → List Json → Except OptionsFault α)
    (hkeys : ∀ o items, setInOrder o [] items = .ok o)
    (hitems : ∀ o keys, setInOrder o keys [] = .ok o)
    (hcons : ∀ o key keys d rest, setInOrder o (key :: keys) (d :: rest) =
      (setField o key d).bind fun o => setInOrder o keys rest)
    (o : α) (keys : List String) (items : List Json) :
    setInOrder o keys items = fill setField o (keys.zip items) := by
  induction keys generalizing o items with
  | nil => exact hkeys o items
  | cons key keys ih =>
    cases items with
    | nil => exact hitems o (key :: keys)
    | cons d rest =>
      rw [hcons, List.zip_cons_cons, fill, List.foldlM_cons]
      exact congrArg _ (funext fun o => ih o rest)

/-- Decodes a document, with a way to set fields from entries. -/
def decode (fill : List (String × Json) → Except OptionsFault α) : Json → Except OptionsFault α
  | .object members => fill members
  | .array items => do
    let options ← fill (layout.fields.zip items)
    if items.length < layout.required then
      .error (.missingElements items.length layout.wanted layout.fields.length)
    else if layout.fields.length < items.length then .error (.extraElements items.length)
    else .ok options
  | got => .error (.wrongType got layout.wanted)

variable {layout} in
/-- An array whose elements can be read is still rejected for too few of them, or for too many. -/
theorem decode_array_of_ok {fill : List (String × Json) → Except OptionsFault α} {o : α}
    {items : List Json} (h : fill (layout.entries (.array items)) = .ok o) :
    layout.decode fill (.array items) =
      if items.length < layout.required then
        .error (.missingElements items.length layout.wanted layout.fields.length)
      else if layout.fields.length < items.length then .error (.extraElements items.length)
      else .ok o := by
  rw [entries] at h
  rw [decode, h]
  rfl

variable {layout} in
/-- An element that cannot be read is reported before their number is looked at. -/
theorem decode_array_of_error {fill : List (String × Json) → Except OptionsFault α}
    {fault : OptionsFault} {items : List Json}
    (h : fill (layout.entries (.array items)) = .error fault) :
    layout.decode fill (.array items) = .error fault := by
  rw [entries] at h
  rw [decode, h]
  rfl

/-- Every document is options, or something is reported of it. -/
theorem isDocument_or_rejects (d : Json) :
    layout.IsDocument d ∨ ∃ fault, layout.Rejects d fault := by
  by_cases hfits : ∀ entry ∈ layout.entries d, layout.fits entry = true
  · cases d with
    | object members => exact .inl (.object hfits)
    | array items =>
      rcases Nat.lt_or_ge items.length layout.required with hmissing | hrequired
      · exact .inr ⟨_, .missing hfits hmissing⟩
      · rcases Nat.lt_or_ge layout.fields.length items.length with hextra | hlength
        · exact .inr ⟨_, .extra hfits hextra⟩
        · exact .inl (.array hrequired hlength hfits)
    | null | boolean _ | number _ | string _ => exact .inr ⟨_, .scalar nofun nofun⟩
  · obtain ⟨before, entry, hfirst⟩ := FirstFailure.exists_of_not_forall hfits
    exact .inr ⟨_, .entry hfirst⟩

variable {layout} in
theorem fits_of_unknown (h : Entries.get? layout.schema key = none) :
    layout.fits (key, d) = false := by
  rw [fits, h]
  rfl

variable {layout} in
theorem fault_of_unknown (h : Entries.get? layout.schema key = none) :
    layout.fault (key, d) = .unknownField key layout.fields := by
  rw [fault, h]

/-- Fields are set from the entries that fit, as `put` says, and no others. -/
def IsSetter (setField : α → String → Json → Except OptionsFault α)
    (put : α → String × Json → α) : Prop :=
  ∀ o entry, setField o entry.1 entry.2 =
    if layout.fits entry then .ok (put o entry) else .error (layout.fault entry)

end Layout

namespace Layout.IsSetter

variable {layout : Layout} {setField : α → String → Json → Except OptionsFault α}
  {put : α → String × Json → α} {entries before : List (String × Json)} {entry : String × Json}
  {o blank : α} {fault : OptionsFault}

/-- Members that all fit are put into the options one after the other. -/
theorem fill_of_fits (h : layout.IsSetter setField put) (o : α)
    (hfits : ∀ entry ∈ entries, layout.fits entry = true) :
    fill setField o entries = .ok (entries.foldl put o) := by
  induction entries generalizing o with
  | nil => rfl
  | cons entry rest ih =>
    obtain ⟨hentry, hrest⟩ := List.forall_mem_cons.mp hfits
    rw [fill, List.foldlM_cons, h o entry, if_pos hentry]
    exact ih (put o entry) hrest

/-- Of members that do not fit the first is reported. -/
theorem fill_of_firstFailure (h : layout.IsSetter setField put) (o : α)
    (hfirst : FirstFailure layout.fits entries before entry) :
    fill setField o entries = .error (layout.fault entry) := by
  induction hfirst generalizing o with
  | here hentry =>
    rw [fill, List.foldlM_cons, h o, hentry]
    rfl
  | later hentry _ ih =>
    rw [fill, List.foldlM_cons, h o, if_pos hentry]
    exact ih _

theorem decode_of_isDocument (h : layout.IsSetter setField put) (blank : α)
    (hd : layout.IsDocument d) :
    layout.decode (fill setField blank) d = .ok ((layout.entries d).foldl put blank) := by
  cases hd with
  | object hfits => exact h.fill_of_fits blank hfits
  | array hrequired hlength hfits =>
    rw [decode_array_of_ok (h.fill_of_fits blank hfits), if_neg (Nat.not_lt.mpr hrequired),
      if_neg (Nat.not_lt.mpr hlength)]

theorem decode_of_rejects (h : layout.IsSetter setField put) (blank : α)
    (hd : layout.Rejects d fault) : layout.decode (fill setField blank) d = .error fault := by
  cases hd with
  | entry hfirst =>
    have hfill := h.fill_of_firstFailure blank hfirst
    cases d with
    | object members => exact hfill
    | array items => exact decode_array_of_error hfill
    | null | boolean _ | number _ | string _ => cases hfirst
  | missing hfits hmissing =>
    rw [decode_array_of_ok (h.fill_of_fits blank hfits), if_pos hmissing]
  | extra hfits hextra =>
    -- Too many elements are not too few as well.
    have hrequired : ¬ layout.fields.length < layout.required := by
      have hle := layout.required_le
      rw [fields, List.length_map]
      omega
    rw [decode_array_of_ok (h.fill_of_fits blank hfits), if_neg (by omega), if_pos hextra]
  | scalar hobject harray =>
    cases d with
    | object members => exact (hobject members rfl).elim
    | array items => exact (harray items rfl).elim
    | null | boolean _ | number _ | string _ => rfl

/-- Documents of the layout, and no others, are accepted. -/
theorem decode_eq_ok_iff (h : layout.IsSetter setField put) :
    layout.decode (fill setField blank) d = .ok o ↔
      layout.IsDocument d ∧ (layout.entries d).foldl put blank = o := by
  constructor
  · intro hok
    rcases layout.isDocument_or_rejects d with hd | ⟨fault, hd⟩
    · rw [h.decode_of_isDocument blank hd] at hok
      exact ⟨hd, Except.ok.inj hok⟩
    · rw [h.decode_of_rejects blank hd] at hok
      cases hok
  · rintro ⟨hd, rfl⟩
    exact h.decode_of_isDocument blank hd

/-- A fault is reported of the documents that are rejected for it, and of no others. -/
theorem decode_eq_error_iff (h : layout.IsSetter setField put) :
    layout.decode (fill setField blank) d = .error fault ↔ layout.Rejects d fault := by
  refine ⟨fun herror => ?_, h.decode_of_rejects blank⟩
  rcases layout.isDocument_or_rejects d with hd | ⟨other, hd⟩
  · rw [h.decode_of_isDocument blank hd] at herror
    cases herror
  · rw [h.decode_of_rejects blank hd] at herror
    exact Except.error.inj herror ▸ hd

end Layout.IsSetter

/-- A field that only the entries of its name set has what the one entry of that name says. -/
theorem foldl_put_field (put : α → String × Json → α) (key : String) (field : α → β)
    (read : Json → β)
    (hput : ∀ o entry, field (put o entry) = if entry.1 = key then read entry.2 else field o)
    {entries : List (String × Json)} (hdistinct : (entries.map (·.1)).Nodup) (o : α) :
    field (entries.foldl put o) = ((Entries.get? entries key).map read).getD (field o) := by
  induction entries generalizing o with
  | nil => rfl
  | cons entry rest ih =>
    obtain ⟨hnew, hrest⟩ := List.nodup_cons.mp hdistinct
    rw [List.foldl_cons, ih hrest, hput, Entries.get?_cons]
    by_cases hkey : entry.1 = key
    · -- The name does not come again, so that the field keeps what it is set to here.
      have hrest : Entries.get? rest key = none := Entries.get?_eq_none_iff.mpr (hkey ▸ hnew)
      rw [if_pos hkey, if_pos hkey, hrest]
      rfl
    · rw [if_neg hkey, if_neg hkey]

/-- Entries that say what `full` says: in any order, and what says nothing may be left out. -/
structure Writes (entries full : List (String × Json)) : Prop where
  distinct : (entries.map (·.1)).Nodup
  subset : ∀ entry ∈ entries, entry ∈ full
  complete : ∀ entry ∈ full, entry.2.saysNothing = false → entry ∈ entries

namespace Writes

variable {entries full : List (String × Json)}

protected theorem refl (h : (full.map (·.1)).Nodup) : Writes full full :=
  ⟨h, fun _ hentry => hentry, fun _ hentry _ => hentry⟩

/-- A member that was written is found again, unless it says nothing and was left out. -/
theorem get? (h : Writes entries full) (hdistinct : (full.map (·.1)).Nodup)
    (hmem : (key, d) ∈ full) :
    Entries.get? entries key = some d ∨ d.saysNothing = true ∧ Entries.get? entries key = none := by
  cases hnothing : d.saysNothing with
  | false => exact .inl ((Entries.get?_eq_some_iff h.distinct).mpr (h.complete _ hmem hnothing))
  | true =>
    cases hget : Entries.get? entries key with
    | none => exact .inr ⟨rfl, rfl⟩
    | some other =>
      have hother := h.subset _ (Entries.mem_of_get?_eq_some hget)
      have hsame := (Entries.get?_eq_some_iff hdistinct).mpr hother
      rw [(Entries.get?_eq_some_iff hdistinct).mpr hmem] at hsame
      exact .inl hsame.symm

/-- What is read under a key is what `full` has there, if a blank reads like nothing at all. -/
theorem read_get? (h : Writes entries full) (hdistinct : (full.map (·.1)).Nodup)
    (hmem : (key, d) ∈ full) (read : Option Json → β) (hnull : read (some .null) = read none)
    (hfalse : read (some (.boolean false)) = read none) :
    read (Entries.get? entries key) = read (some d) := by
  rcases h.get? hdistinct hmem with hget | ⟨hnothing, hget⟩
  · rw [hget]
  · rw [hget]
    rcases Json.eq_of_saysNothing hnothing with rfl | rfl
    · exact hnull.symm
    · exact hfalse.symm

end Writes

/-- `full` has an entry for each field, and entries that say what it says are read as `o`. -/
structure Layout.IsEncoding (layout : Layout) (written : List (String × Json) → α) (o : α)
    (full : List (String × Json)) : Prop where
  keys : full.map (·.1) = layout.fields
  fits : ∀ entry ∈ full, layout.fits entry = true
  reads : ∀ {entries}, Writes entries full → written entries = o

/-- Documents are decoded to what they write. `written` reads options off the entries of a document,
`encode` gives the entries of options, and `isSized` holds of the options that have a document. -/
structure Layout.DecodesExactly (layout : Layout) (ofJson : Json → Except ConfigError α)
    (written : List (String × Json) → α) (encode : α → List (String × Json))
    (isSized : α → Prop) : Prop where
  accepts_iff : ∀ d, (∃ o, ofJson d = .ok o) ↔ layout.IsDocument d
  value_eq : ∀ d o, ((layout.entries d).map (·.1)).Nodup → ofJson d = .ok o →
    o = written (layout.entries d) ∧ isSized o
  any_order : ∀ members members' o, (members.map (·.1)).Nodup → members.Perm members' →
    (ofJson (.object members) = .ok o ↔ ofJson (.object members') = .ok o)
  object_of_encode : ∀ o members, isSized o → Writes members (encode o) →
    ofJson (.object members) = .ok o
  array_of_encode : ∀ o, isSized o → ofJson (.array ((encode o).map (·.2))) = .ok o
  error_iff : ∀ d e, ofJson d = .error e ↔
    ∃ fault, layout.Rejects d fault ∧ .invalidOptions fault = e

theorem Except.mapError_eq_ok_iff {ε δ : Type} {x : Except ε α} {f : ε → δ} {a : α} :
    x.mapError f = .ok a ↔ x = .ok a := by
  cases x with
  | error e => exact ⟨nofun, nofun⟩
  | ok b =>
    constructor
    all_goals
      intro h
      exact congrArg Except.ok (Except.ok.inj h)

theorem Except.mapError_eq_error_iff {ε δ : Type} {x : Except ε α} {f : ε → δ} {e : δ} :
    x.mapError f = .error e ↔ ∃ fault, x = .error fault ∧ f fault = e := by
  cases x with
  | error fault =>
    constructor
    · intro h
      exact ⟨fault, rfl, Except.error.inj h⟩
    · rintro ⟨_, ⟨⟩, rfl⟩
      rfl
  | ok a =>
    constructor
    · nofun
    · rintro ⟨_, ⟨⟩, _⟩

/-- The order of members does not matter. -/
theorem Layout.isDocument_of_perm {layout : Layout} {members members' : List (String × Json)}
    (hperm : members.Perm members') (h : layout.IsDocument (.object members)) :
    layout.IsDocument (.object members') := by
  cases h with
  | object hfits => exact .object fun entry hentry => hfits entry (hperm.mem_iff.mpr hentry)

namespace Layout.IsEncoding

variable {layout : Layout} {written : List (String × Json) → α} {o : α}
  {full : List (String × Json)}

theorem distinct (h : layout.IsEncoding written o full) : (full.map (·.1)).Nodup :=
  h.keys ▸ layout.distinct

theorem zip_fields (h : layout.IsEncoding written o full) :
    layout.fields.zip (full.map (·.2)) = full :=
  (List.zip_of_prod h.keys rfl).symm

/-- The values alone, in the order of the fields, are a document too. -/
theorem isDocument_array (h : layout.IsEncoding written o full) :
    layout.IsDocument (.array (full.map (·.2))) := by
  have hlength : (full.map (·.2)).length = layout.fields.length := by
    rw [← h.keys, List.length_map, List.length_map]
  have hfields : layout.fields.length = layout.schema.length := List.length_map ..
  refine .array ?_ (Nat.le_of_eq hlength) ?_
  · rw [hlength, hfields]
    exact layout.required_le
  · rw [h.zip_fields]
    exact h.fits

end Layout.IsEncoding

/-- What it takes for a kind of options to be decoded exactly: a setter of single fields, with which
the document is decoded, and ways to read and to write all fields that fit it. -/
theorem Layout.IsSetter.decodesExactly {layout : Layout}
    {setField : α → String → Json → Except OptionsFault α} {put : α → String × Json → α}
    {blank : α} {ofJson : Json → Except ConfigError α} {written : List (String × Json) → α}
    {encode : α → List (String × Json)} {isSized : α → Prop} (h : layout.IsSetter setField put)
    (hofJson : ∀ d, ofJson d = (layout.decode (fill setField blank) d).mapError .invalidOptions)
    (hput : ∀ {entries}, (entries.map (·.1)).Nodup → entries.foldl put blank = written entries)
    (hwritten : ∀ {entries entries'},
      (∀ key, Entries.get? entries key = Entries.get? entries' key) →
      written entries = written entries')
    (hencode : ∀ o, isSized o → layout.IsEncoding written o (encode o))
    (hsized : ∀ entries, isSized (written entries)) :
    layout.DecodesExactly ofJson written encode isSized := by
  have hok {d : Json} {o : α} : ofJson d = .ok o ↔
      layout.IsDocument d ∧ (layout.entries d).foldl put blank = o := by
    rw [hofJson, Except.mapError_eq_ok_iff, h.decode_eq_ok_iff]
  have hwrites {o : α} (ho : isSized o) {d : Json} (hd : layout.IsDocument d)
      (hentries : Writes (layout.entries d) (encode o)) : ofJson d = .ok o :=
    hok.mpr ⟨hd, (hput hentries.distinct).trans ((hencode o ho).reads hentries)⟩
  constructor
  case accepts_iff =>
    intro d
    constructor
    · rintro ⟨o, hd⟩
      exact (hok.mp hd).1
    · intro hd
      exact ⟨_, hok.mpr ⟨hd, rfl⟩⟩
  case value_eq =>
    intro d o hdistinct hd
    obtain ⟨-, rfl⟩ := hok.mp hd
    rw [hput hdistinct]
    exact ⟨rfl, hsized _⟩
  case any_order =>
    intro members members' o hdistinct hperm
    have hdistinct' : (members'.map (·.1)).Nodup := (hperm.map _).nodup_iff.mp hdistinct
    have hsame : members.foldl put blank = members'.foldl put blank := by
      rw [hput hdistinct, hput hdistinct', hwritten (Entries.get?_perm hperm hdistinct)]
    rw [hok, hok]
    refine and_congr ⟨isDocument_of_perm hperm, isDocument_of_perm hperm.symm⟩ ?_
    exact iff_of_eq (congrArg (· = o) hsame)
  case object_of_encode =>
    intro o members ho hmembers
    have hfits : ∀ entry ∈ members, layout.fits entry = true :=
      fun entry hentry => (hencode o ho).fits entry (hmembers.subset entry hentry)
    exact hwrites ho (.object hfits) hmembers
  case array_of_encode =>
    intro o ho
    refine hwrites ho (hencode o ho).isDocument_array ?_
    rw [entries, (hencode o ho).zip_fields]
    exact .refl (hencode o ho).distinct
  case error_iff =>
    intro d e
    rw [hofJson, Except.mapError_eq_error_iff]
    simp only [h.decode_eq_error_iff]

end Conform
