import Conform.Proofs.Layout

/-! Options from documents. The two kinds of options are decoded by their tables of fields, and each
field of what is decoded has what the document says under its name. -/

namespace Conform

variable {α β : Type} {d : Json} {wanted : Wanted}

theorem getD_none_map (x : Option α) (f : α → Option β) : (x.map f).getD none = x.bind f := by
  cases x <;> rfl

namespace Json

def text? : Json → Option String
  | string s => some s
  | _ => none

def length? : Json → Option Nat
  | number (.integer n _) => some n.toNat
  | _ => none

def number? : Json → Option Number
  | number n => some n.number
  | _ => none

def boolean? : Json → Option Bool
  | boolean b => some b
  | _ => none

theorem optional_asString (d : Json) :
    optional asString d =
      if Wanted.string.suits d then .ok d.text? else .error (Wanted.string.fault d) := by
  cases d <;> rfl

theorem optional_asNumber (d : Json) :
    optional asNumber d =
      if Wanted.number.suits d then .ok d.number? else .error (Wanted.number.fault d) := by
  cases d <;> rfl

/-- A field for a boolean takes nothing else, not even null. -/
theorem asBoolean_eq (d : Json) :
    asBoolean d =
      if Wanted.boolean.suits d then .ok (d.boolean?.getD false)
      else .error (Wanted.boolean.fault d) := by
  cases d <;> rfl

/-- A field for a length takes null and what is written as a natural number, and no other number. -/
theorem optional_asLength (d : Json) :
    optional asLength d =
      if Wanted.length.suits d then .ok d.length? else .error (Wanted.length.fault d) := by
  cases d with
  | number n =>
    cases n with
    | integer n fits =>
      rcases Int.lt_or_le n 0 with hn | hn
      · simp [optional, asLength, Wanted.suits, Wanted.fault, hn, Except.map]
      · simp [optional, asLength, Wanted.suits, length?, hn, Int.not_lt.mpr hn, Except.map]
    | float x => rfl
  | _ => rfl

/-- The document of a field, null if it is not set. -/
def ofField (encode : α → Json) (field : Option α) : Json := (field.map encode).getD null

def ofLength (n : Nat) : Json := number (.ofInt n)

def ofBound (x : Number) : Json := number (.float x)

theorem ofLength_eq {n : Nat} (h : n < UInt64.size) :
    ∃ fits : Fits64 n, ofLength n = number (.integer n fits) := by
  have hsize : UInt64.size = 18446744073709551616 := rfl
  have fits : Fits64 n := ⟨by omega, by omega⟩
  exact ⟨fits, congrArg number (dif_pos fits)⟩

/-- A field that suits when it is set also suits as null, and is read back. -/
theorem suits_ofField {encode : α → Json} {read? : Json → Option α} {field : Option α}
    (hnull : wanted.suits null = true ∧ read? null = none)
    (h : ∀ a ∈ field, wanted.suits (encode a) = true ∧ read? (encode a) = some a) :
    wanted.suits (ofField encode field) = true ∧ read? (ofField encode field) = field := by
  cases field with
  | none => exact hnull
  | some a => exact h a rfl

/-- A field for a text is written as what is read back as it. -/
theorem suits_string (text : Option String) :
    Wanted.string.suits (ofField string text) = true ∧ (ofField string text).text? = text :=
  suits_ofField ⟨rfl, rfl⟩ fun _ _ => ⟨rfl, rfl⟩

theorem suits_bound (bound : Option Number) :
    Wanted.number.suits (ofField ofBound bound) = true ∧
      (ofField ofBound bound).number? = bound :=
  suits_ofField ⟨rfl, rfl⟩ fun _ _ => ⟨rfl, rfl⟩

theorem suits_length {length : Option Nat} (h : ∀ n ∈ length, n < UInt64.size) :
    Wanted.length.suits (ofField ofLength length) = true ∧
      (ofField ofLength length).length? = length := by
  refine suits_ofField ⟨rfl, rfl⟩ fun n hn => ?_
  obtain ⟨fits, hlength⟩ := ofLength_eq (h n hn)
  rw [hlength]
  exact ⟨decide_eq_true (Int.natCast_nonneg n), rfl⟩

theorem lt_of_length? {n : Nat} (h : n ∈ d.length?) : n < UInt64.size := by
  cases d with
  | number x =>
    cases x with
    | integer k fits =>
      have hk : k.toNat = n := Option.some.inj h
      have hsize : UInt64.size = 18446744073709551616 := rfl
      have hupper := fits.2
      omega
    | float x => cases h
  | _ => cases h

theorem lt_of_bind_length? {found : Option Json} {n : Nat} (h : n ∈ found.bind length?) :
    n < UInt64.size := by
  obtain ⟨d, -, hd⟩ := Option.bind_eq_some_iff.mp h
  exact lt_of_length? hd

end Json

theorem Except.map_ite {ε : Type} (c : Bool) (a : α) (e : ε) (f : α → β) :
    (if c then Except.ok a else Except.error e).map f =
      if c then Except.ok (f a) else Except.error e := by
  cases c <;> rfl

namespace StringOptions

def layout : Layout where
  wanted := .stringOptions
  schema := [("pattern", .string), ("length", .length), ("minLength", .length),
    ("maxLength", .length)]
  required := 4
  distinct := by decide
  required_le := by decide

/-- The options that entries write: each field has what stands under its name, and is not set if
nothing does. -/
def written (entries : List (String × Json)) : StringOptions where
  pattern := (Entries.get? entries "pattern").bind Json.text?
  length := (Entries.get? entries "length").bind Json.length?
  minLength := (Entries.get? entries "minLength").bind Json.length?
  maxLength := (Entries.get? entries "maxLength").bind Json.length?

/-- Options with a field set from an entry that fits. -/
def put (o : StringOptions) (entry : String × Json) : StringOptions where
  pattern := if entry.1 = "pattern" then entry.2.text? else o.pattern
  length := if entry.1 = "length" then entry.2.length? else o.length
  minLength := if entry.1 = "minLength" then entry.2.length? else o.minLength
  maxLength := if entry.1 = "maxLength" then entry.2.length? else o.maxLength

theorem isSetter : layout.IsSetter setField put := by
  -- The cases are those of the definition: a field each, and then any other name.
  rintro o ⟨key, d⟩
  by_cases hpattern : key = "pattern"
  · subst hpattern
    rw [setField, if_pos rfl, Json.optional_asString, Except.map_ite]
    rfl
  by_cases hlength : key = "length"
  · subst hlength
    rw [setField, if_neg hpattern, if_pos rfl, Json.optional_asLength, Except.map_ite]
    rfl
  by_cases hmin : key = "minLength"
  · subst hmin
    rw [setField, if_neg hpattern, if_neg hlength, if_pos rfl, Json.optional_asLength,
      Except.map_ite]
    rfl
  by_cases hmax : key = "maxLength"
  · subst hmax
    rw [setField, if_neg hpattern, if_neg hlength, if_neg hmin, if_pos rfl,
      Json.optional_asLength, Except.map_ite]
    rfl
  have hunknown : Entries.get? layout.schema key = .none := by
    rw [Entries.get?_eq_none_iff]
    simp [layout, hpattern, hlength, hmin, hmax]
  rw [setField, if_neg hpattern, if_neg hlength, if_neg hmin, if_neg hmax,
    Layout.fits_of_unknown hunknown, Layout.fault_of_unknown hunknown]
  rfl

theorem decode_eq : decode = layout.decode (Layout.fill setField none) := by
  funext d
  cases d with
  | array items =>
    have hnone (o) : ∀ keys, setInOrder o keys [] = .ok o
      | [] | _ :: _ => rfl
    rw [decode, Layout.fill_zip setField setInOrder (fun _ _ => rfl) hnone fun _ _ _ _ _ => rfl]
    rfl
  | _ => rfl

/-- Options for strings have the fields that the entries say. -/
theorem foldl_put {entries : List (String × Json)} (h : (entries.map (·.1)).Nodup) :
    entries.foldl put none = written entries := by
  have hpattern := foldl_put_field put "pattern" pattern Json.text? (fun _ _ => rfl) h none
  have hlength := foldl_put_field put "length" length Json.length? (fun _ _ => rfl) h none
  have hmin := foldl_put_field put "minLength" minLength Json.length? (fun _ _ => rfl) h none
  have hmax := foldl_put_field put "maxLength" maxLength Json.length? (fun _ _ => rfl) h none
  generalize entries.foldl put none = o at hpattern hlength hmin hmax
  obtain ⟨pattern, length, min, max⟩ := o
  rw [written, ← getD_none_map, ← getD_none_map, ← getD_none_map, ← getD_none_map]
  exact congr (congr (congr (congrArg mk hpattern) hlength) hmin) hmax

/-- Lengths fit 64 bits. -/
structure IsSized (o : StringOptions) : Prop where
  length : ∀ n ∈ o.length, n < UInt64.size
  minLength : ∀ n ∈ o.minLength, n < UInt64.size
  maxLength : ∀ n ∈ o.maxLength, n < UInt64.size

theorem isSized_written (entries : List (String × Json)) : (written entries).IsSized :=
  ⟨fun _ => Json.lt_of_bind_length?, fun _ => Json.lt_of_bind_length?,
    fun _ => Json.lt_of_bind_length?⟩

def encode (o : StringOptions) : List (String × Json) :=
  [("pattern", .ofField .string o.pattern), ("length", .ofField .ofLength o.length),
    ("minLength", .ofField .ofLength o.minLength), ("maxLength", .ofField .ofLength o.maxLength)]

/-- Options for strings are written as a document of the layout that says their fields. -/
theorem isEncoding {o : StringOptions} (ho : o.IsSized) : layout.IsEncoding written o o.encode := by
  obtain ⟨hpatternSuits, hpattern⟩ := Json.suits_string o.pattern
  obtain ⟨hlengthSuits, hlength⟩ := Json.suits_length ho.length
  obtain ⟨hminSuits, hmin⟩ := Json.suits_length ho.minLength
  obtain ⟨hmaxSuits, hmax⟩ := Json.suits_length ho.maxLength
  refine ⟨rfl, ?_, fun {entries} h => ?_⟩
  · simp only [encode, List.forall_mem_cons]
    exact ⟨hpatternSuits, hlengthSuits, hminSuits, hmaxSuits, nofun⟩
  · have hdistinct : (o.encode.map (·.1)).Nodup := layout.distinct
    have hpattern : (Entries.get? entries "pattern").bind Json.text? = o.pattern :=
      (h.read_get? hdistinct (by simp [encode]) (·.bind _) rfl rfl).trans hpattern
    have hlength : (Entries.get? entries "length").bind Json.length? = o.length :=
      (h.read_get? hdistinct (by simp [encode]) (·.bind _) rfl rfl).trans hlength
    have hmin : (Entries.get? entries "minLength").bind Json.length? = o.minLength :=
      (h.read_get? hdistinct (by simp [encode]) (·.bind _) rfl rfl).trans hmin
    have hmax : (Entries.get? entries "maxLength").bind Json.length? = o.maxLength :=
      (h.read_get? hdistinct (by simp [encode]) (·.bind _) rfl rfl).trans hmax
    exact congr (congr (congr (congrArg mk hpattern) hlength) hmin) hmax

end StringOptions

namespace NumberOptions

def layout : Layout where
  wanted := .numberOptions
  schema := [("min", .number), ("max", .number), ("integer", .boolean)]
  required := 2
  distinct := by decide
  required_le := by decide

/-- The options that entries write. An integer is asked for only if that is written. -/
def written (entries : List (String × Json)) : NumberOptions where
  min := (Entries.get? entries "min").bind Json.number?
  max := (Entries.get? entries "max").bind Json.number?
  integer := ((Entries.get? entries "integer").bind Json.boolean?).getD false

/-- Options with a field set from an entry that fits. -/
def put (o : NumberOptions) (entry : String × Json) : NumberOptions where
  min := if entry.1 = "min" then entry.2.number? else o.min
  max := if entry.1 = "max" then entry.2.number? else o.max
  integer := if entry.1 = "integer" then entry.2.boolean?.getD false else o.integer

theorem isSetter : layout.IsSetter setField put := by
  rintro o ⟨key, d⟩
  by_cases hmin : key = "min"
  · subst hmin
    rw [setField, if_pos rfl, Json.optional_asNumber, Except.map_ite]
    rfl
  by_cases hmax : key = "max"
  · subst hmax
    rw [setField, if_neg hmin, if_pos rfl, Json.optional_asNumber, Except.map_ite]
    rfl
  by_cases hinteger : key = "integer"
  · subst hinteger
    rw [setField, if_neg hmin, if_neg hmax, if_pos rfl, Json.asBoolean_eq, Except.map_ite]
    rfl
  have hunknown : Entries.get? layout.schema key = .none := by
    rw [Entries.get?_eq_none_iff]
    simp [layout, hmin, hmax, hinteger]
  rw [setField, if_neg hmin, if_neg hmax, if_neg hinteger, Layout.fits_of_unknown hunknown,
    Layout.fault_of_unknown hunknown]
  rfl

theorem decode_eq : decode = layout.decode (Layout.fill setField none) := by
  funext d
  cases d with
  | array items =>
    have hnone (o) : ∀ keys, setInOrder o keys [] = .ok o
      | [] | _ :: _ => rfl
    rw [decode, Layout.fill_zip setField setInOrder (fun _ _ => rfl) hnone fun _ _ _ _ _ => rfl]
    rfl
  | _ => rfl

theorem foldl_put {entries : List (String × Json)} (h : (entries.map (·.1)).Nodup) :
    entries.foldl put none = written entries := by
  have hmin := foldl_put_field put "min" min Json.number? (fun _ _ => rfl) h none
  have hmax := foldl_put_field put "max" max Json.number? (fun _ _ => rfl) h none
  have hinteger :=
    foldl_put_field put "integer" integer (·.boolean?.getD false) (fun _ _ => rfl) h none
  generalize entries.foldl put none = o at hmin hmax hinteger
  obtain ⟨min, max, integer⟩ := o
  rw [written, ← getD_none_map, ← getD_none_map]
  have hflag : ((Entries.get? entries "integer").bind Json.boolean?).getD false = integer := by
    refine Eq.trans ?_ hinteger.symm
    cases Entries.get? entries "integer" <;> rfl
  exact congr (congr (congrArg mk hmin) hmax) hflag.symm

def encode (o : NumberOptions) : List (String × Json) :=
  [("min", .ofField .ofBound o.min), ("max", .ofField .ofBound o.max),
    ("integer", .boolean o.integer)]

theorem isEncoding (o : NumberOptions) : layout.IsEncoding written o o.encode := by
  obtain ⟨hminSuits, hmin⟩ := Json.suits_bound o.min
  obtain ⟨hmaxSuits, hmax⟩ := Json.suits_bound o.max
  refine ⟨rfl, ?_, fun {entries} h => ?_⟩
  · simp only [encode, List.forall_mem_cons]
    exact ⟨hminSuits, hmaxSuits, rfl, nofun⟩
  · have hdistinct : (o.encode.map (·.1)).Nodup := layout.distinct
    have hmin : (Entries.get? entries "min").bind Json.number? = o.min :=
      (h.read_get? hdistinct (by simp [encode]) (·.bind _) rfl rfl).trans hmin
    have hmax : (Entries.get? entries "max").bind Json.number? = o.max :=
      (h.read_get? hdistinct (by simp [encode]) (·.bind _) rfl rfl).trans hmax
    have hmem : ("integer", Json.boolean o.integer) ∈ o.encode := by simp [encode]
    have hinteger : ((Entries.get? entries "integer").bind Json.boolean?).getD false = o.integer :=
      h.read_get? hdistinct hmem (fun found => (found.bind Json.boolean?).getD false) rfl rfl
    exact congr (congr (congrArg mk hmin) hmax) hinteger

end NumberOptions

/-- Documents of options are decoded exactly: just those are accepted whose entries all fit, as an
object in any order or as an array of the fields in order, each field then has what the document
says, options that are written are read back, and of any other document the first fault is
reported. -/
theorem options_documents_decoded_exactly :
    StringOptions.layout.DecodesExactly StringOptions.ofJson StringOptions.written
        StringOptions.encode StringOptions.IsSized ∧
      NumberOptions.layout.DecodesExactly NumberOptions.ofJson NumberOptions.written
        NumberOptions.encode fun _ => True := by
  constructor
  · refine StringOptions.isSetter.decodesExactly (fun d => ?_) StringOptions.foldl_put
      (fun h => ?_) (fun _ => StringOptions.isEncoding) StringOptions.isSized_written
    · rw [StringOptions.ofJson, StringOptions.decode_eq]
    · simp only [StringOptions.written, h]
  · refine NumberOptions.isSetter.decodesExactly (fun d => ?_) NumberOptions.foldl_put
      (fun h => ?_) (fun o _ => NumberOptions.isEncoding o) fun _ => trivial
    · rw [NumberOptions.ofJson, NumberOptions.decode_eq]
    · simp only [NumberOptions.written, h]

/-- A length is read from an object that leaves the other fields out or null, and of two entries
that do not fit the first is reported. -/
theorem options_documents_decoded_exactly_maxLength :
    StringOptions.IsSized ⟨none, none, none, some 10⟩ ∧
      StringOptions.ofJson
          (.object [("maxLength", .number (.integer 10 (by decide))), ("pattern", .null)]) =
        .ok ⟨none, none, none, some 10⟩ ∧
      StringOptions.ofJson (.object [("maxlength", .null), ("length", .boolean true)]) =
        .error (.invalidOptions (.unknownField "maxlength" StringOptions.fields)) := by
  have hsized : StringOptions.IsSized ⟨none, none, none, some 10⟩ :=
    ⟨nofun, nofun, fun n hn => by cases hn; decide⟩
  obtain ⟨hstring, -⟩ := options_documents_decoded_exactly
  refine ⟨hsized, hstring.object_of_encode _ _ hsized ⟨by decide, ?_, ?_⟩, ?_⟩
  · rintro entry hentry
    rcases List.mem_cons.mp hentry with rfl | hentry
    · exact .tail _ (.tail _ (.tail _ (.head _)))
    · obtain rfl := List.mem_singleton.mp hentry
      exact .head _
  · have hten : Json.ofLength 10 = .number (.integer 10 (by decide)) :=
      congrArg Json.number (dif_pos (by decide))
    simp [StringOptions.encode, Json.ofField, Json.saysNothing, hten]
  · exact (hstring.error_iff _ _).mpr ⟨_, .entry (.here rfl), rfl⟩

end Conform
