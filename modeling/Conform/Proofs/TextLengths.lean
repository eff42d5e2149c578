import Conform.Proofs.Previews
import Conform.Proofs.Utf16
import Conform.Proofs.Violations
import Conform.Value.Property
import Mathlib.Data.Finite.Prod
import Mathlib.Data.Fintype.Option
import Mathlib.Data.Set.Finite.Lattice

/-! Lengths of the texts that messages are put together of. What is repeated of a value is cut
before it is escaped; whatever else is said of a value is one of finitely many texts. -/

namespace Conform

namespace Text

/-- A character is escaped with six characters at most. -/
theorem length_escapeQuoted_le (c : Char) : (escapeQuoted c).length ≤ 6 := by
  unfold escapeQuoted
  repeat' split
  all_goals simp [hexPair]

theorem length_flatMap_escapeQuoted_le (cs : List Char) :
    (cs.flatMap escapeQuoted).length ≤ 6 * cs.length := by
  induction cs with
  | nil => exact Nat.le_refl _
  | cons c rest ih =>
    have hc := length_escapeQuoted_le c
    rw [List.flatMap_cons, List.length_append, List.length_cons]
    omega

theorem length_quoted (s : String) :
    (quoted s).length = (s.toList.flatMap escapeQuoted).length + 2 := by
  rw [quoted, String.length_ofList, List.cons_append, List.length_cons, List.length_append]
  rfl

/-- The dots that mark a cut are not escaped. -/
theorem length_quoted_preview_le (s : String) (limit : Nat) :
    (quoted (preview s limit)).length ≤ 6 * limit + 5 := by
  rw [length_quoted]
  rcases Nat.lt_or_ge limit s.length with h | h
  · have hcut := length_flatMap_escapeQuoted_le (s.toList.take limit)
    have hdots : (['.', '.', '.'].flatMap escapeQuoted).length = 3 := rfl
    rw [List.length_take] at hcut
    rw [toList_preview_of_lt h, List.flatMap_append, List.length_append, hdots]
    omega
  · have hwhole := length_flatMap_escapeQuoted_le s.toList
    rw [String.length_toList] at hwhole
    rw [preview_of_le h]
    omega

/-- A length that is below the bound of indices has no more than twenty digits. -/
theorem length_repr_le {n : Nat} (h : n < indexBound) : (Nat.repr n).length ≤ 20 := by
  rw [Nat.repr, String.length_ofList, Nat.length_toDigits_le_iff (by decide) (by decide)]
  exact Nat.lt_trans h (by decide)

end Text

theorem Datatype.length_name_le (d : Datatype) : d.name.length ≤ 9 := by
  cases d <;> decide

/-- The description of a value is cut like a preview. -/
theorem Value.length_describe_le (v : Value) : v.describe.length ≤ Text.previewLimit + 3 :=
  Text.length_preview_le v.text Text.previewLimit

namespace Magnitude

def fields (m : Magnitude) : Fin (1 <<< 53) × Fin 2046 :=
  (⟨m.significand, m.significand_lt⟩, ⟨m.shift, Nat.lt_succ_of_le m.shift_le⟩)

theorem fields_injective : Function.Injective fields := by
  intro m n h
  obtain ⟨hsignificand, hshift⟩ := Prod.mk.inj h
  cases m
  cases n
  cases Fin.mk.inj hsignificand
  cases Fin.mk.inj hshift
  rfl

instance : Finite Magnitude := .of_injective fields fields_injective

end Magnitude

namespace Number

/-- The sign, if there is one, and the magnitude, if it is finite. -/
def parts : Number → Option (Bool × Option Magnitude)
  | nan => none
  | infinity negative => some (negative, none)
  | finite negative m => some (negative, some m)

theorem parts_injective : Function.Injective parts := by
  intro a b h
  cases a <;> cases b <;> simp_all [parts]

instance : Finite Number := .of_injective parts parts_injective

/-- There are finitely many numbers, and so there is one that is longest to write. -/
theorem exists_length_text_le : ∃ width, ∀ n : Number, n.text.length ≤ width := by
  obtain ⟨width, hwidth⟩ := (Set.finite_range fun n : Number => n.text.length).bddAbove
  exact ⟨width, fun n => hwidth ⟨n, rfl⟩⟩

end Number

/-- What holds of each member with some bound, and then with any greater one, holds of all of them
with one bound. -/
theorem exists_common_bound {α : Type} {items : List α} (holds : Nat → α → Prop)
    (hmono : ∀ {a m n}, m ≤ n → holds m a → holds n a) (h : ∀ a ∈ items, ∃ n, holds n a) :
    ∃ n, ∀ a ∈ items, holds n a := by
  induction items with
  | nil => exact ⟨0, nofun⟩
  | cons a rest ih =>
    obtain ⟨ha, hrest⟩ := List.forall_mem_cons.mp h
    obtain ⟨m, hm⟩ := ha
    obtain ⟨n, hn⟩ := ih hrest
    refine ⟨max m n, List.forall_mem_cons.mpr ⟨hmono (Nat.le_max_left m n) hm, ?_⟩⟩
    exact fun b hb => hmono (Nat.le_max_right m n) (hn b hb)

theorem exists_length_le (texts : List String) : ∃ width, ∀ s ∈ texts, s.length ≤ width :=
  exists_common_bound (fun width (s : String) => s.length ≤ width) (fun hle h => Nat.le_trans h hle)
    fun s _ => ⟨s.length, Nat.le_refl _⟩

namespace Value

variable {v : Value}

/-- The values right inside a value. -/
def contents : Value → List Value
  | array _ items => items
  | object _ _ entries => entries.map (·.2)
  | regexp _ pattern => [string pattern.source]
  | _ => []

/-- The lengths in a value, at any depth, are below the bound of indices. -/
inductive Fits : Value → Prop where
  | intro {v : Value} : (∀ n ∈ v.length?, n < indexBound) → (∀ w ∈ v.contents, Fits w) → Fits v

theorem Fits.length_lt (h : v.Fits) {n : Nat} (hn : v.length? = some n) : n < indexBound := by
  cases h with
  | intro hlength _ => exact hlength n hn

theorem Fits.of_mem_contents (h : v.Fits) {w : Value} (hw : w ∈ v.contents) : w.Fits := by
  cases h with
  | intro _ hcontents => exact hcontents w hw

theorem fits_getD {v? : Option Value} (h : ∀ v ∈ v?, v.Fits) : (v?.getD undefined).Fits := by
  cases v? with
  | none => exact .intro nofun nofun
  | some v => exact h v rfl

/-- What is read from a value has no greater lengths than are in it. -/
theorem Fits.property (h : v.Fits) (key : String) : (v.property key).Fits := by
  cases v with
  | object id cls entries =>
    refine fits_getD fun w hw => h.of_mem_contents ?_
    obtain ⟨entry, hentry, rfl⟩ := Option.map_eq_some_iff.mp hw
    exact List.mem_map_of_mem (List.mem_of_find?_eq_some hentry)
  | array id items =>
    simp only [Value.property]
    split
    · exact .intro nofun nofun
    · refine fits_getD fun w hw => h.of_mem_contents ?_
      obtain ⟨index, -, hw⟩ := Option.bind_eq_some_iff.mp hw
      exact List.mem_of_getElem? hw
  | regexp id pattern =>
    simp only [Value.property]
    split
    · exact h.of_mem_contents List.mem_cons_self
    · exact .intro nofun nofun
  | _ => exact .intro nofun nofun

end Value

namespace Violation

/-- The parts of the text, also where it holds nothing against something else. -/
def wording : Violation → Contrast
  | unmatched pattern received =>
    ⟨"expected pattern ", pattern.text, ", received ",
      Text.quoted (Text.preview received Text.previewLimit)⟩
  | notInteger received => ⟨"expected ", "integer", ", received ", received.text⟩
  | isNull => ⟨"expected ", "not null", "", ""⟩
  | notAChoice choices received =>
    ⟨"expected one of [", ", ".intercalate (choices.map Value.describe), "], received ",
      received.describe⟩
  | notAnInstance classes received =>
    ⟨"expected instance of ", " or ".intercalate (classes.map Class.name), ", received ",
      received.describe⟩
  | x => x.contrast?.getD ⟨"", "", "", ""⟩

/-- What a violation says is put together of four texts. -/
theorem text_eq_wording (x : Violation) :
    x.text = x.wording.before ++ x.wording.expected ++ x.wording.between ++ x.wording.received := by
  cases x <;> rfl

theorem length_words_le (x : Violation) :
    x.wording.before.length + x.wording.between.length ≤ 40 := by
  cases x <;> simp only [wording, contrast?, Option.getD_some] <;> decide

/-- There is room for what a true violation repeats of a value, whatever the value. -/
theorem exists_length_received_le : ∃ width, ∀ (v : Value) (x : Violation), v.Fits → x.IsTrueOf v →
    x.wording.received.length ≤ width := by
  obtain ⟨width, hwidth⟩ := Number.exists_length_text_le
  refine ⟨width + 6 * Text.previewLimit + 20, fun v x hv hx => ?_⟩
  cases hx with
  | wrongType _ | wrongDatatype _ =>
    have hname := v.datatype.length_name_le
    change v.datatype.name.length ≤ _
    omega
  | @length _ n _ hn hlength =>
    have hrepr := Text.length_repr_le (hv.length_lt hn)
    have hreceived : x.wording.received = Nat.repr n := by
      cases hlength <;> rfl
    rw [hreceived]
    omega
  | @unmatched s p _ =>
    have hquoted := Text.length_quoted_preview_le s Text.previewLimit
    change (Text.quoted (Text.preview s Text.previewLimit)).length ≤ _
    omega
  | @notInteger n _ | @tooSmall n _ _ | @tooLarge n _ _ =>
    have htext := hwidth n
    change n.text.length ≤ _
    omega
  | isNull => exact Nat.zero_le _
  | notAChoice _ | notAnInstance _ =>
    have hdescribe := v.length_describe_le
    change v.describe.length ≤ _
    omega

end Violation

namespace Constraint

variable {c : Constraint} {x : Violation}

/-- The texts of bounds of a length. -/
def boundTexts (length min max : Option Nat) : List String :=
  (length.toList ++ min.toList ++ max.toList).map Nat.repr

/-- The texts in which a constraint can be said to ask for something. -/
def askedTexts : Constraint → List String
  | string o =>
    Datatype.string.name :: boundTexts o.length o.minLength o.maxLength ++ patternTexts o.pattern
  | pattern source => Datatype.string.name :: patternTexts (some source)
  | number o =>
    [Datatype.number.name, "integer"] ++ (o.min.toList ++ o.max.toList).map Number.text
  | oneOf choices => [", ".intercalate (choices.map Value.describe)]
  | oneOfValue choices =>
    choices.items?.toList.map fun items => ", ".intercalate (items.map Value.describe)
  | instanceOf classes => [" or ".intercalate (classes.map Class.name)]
  | instanceOfValues candidates =>
    [" or ".intercalate ((candidates.filterMap Value.class?).map Class.name)]
  | datatype name => [name]
  | boolean => ["boolean"]
  | function => ["function"]
  | defined => ["defined"]
  | array min max => "array" :: boundTexts none min max
  | object _ => [Datatype.object.name, "not null"]
where
  patternTexts (source? : Option String) : List String :=
    source?.toList.filterMap fun source =>
      (StringRule.readPattern source).toOption.map Pattern.text

theorem mem_boundTexts {length min max : Option Nat} (h : LengthRule.Names length min max x) :
    x.wording.expected ∈ boundTexts length min max := by
  have hmem {a : Nat} (ha : a ∈ length ∨ a ∈ min ∨ a ∈ max) :
      Nat.repr a ∈ boundTexts length min max := by
    refine List.mem_map_of_mem ?_
    simpa [Option.mem_toList, or_assoc] using ha
  cases h with
  | exactly hexact => exact hmem (hexact.imp_right fun hboth => .inl hboth.1)
  | min ha => exact hmem (.inr (.inl ha))
  | max hb => exact hmem (.inr (.inr hb))

theorem mem_patternTexts {source? : Option String} {source : String} {p : Pattern}
    (hsource : source ∈ source?) (hread : StringRule.readPattern source = .ok p) :
    p.text ∈ askedTexts.patternTexts source? := by
  refine List.mem_filterMap.mpr ⟨source, Option.mem_toList.mpr hsource, ?_⟩
  rw [hread]
  rfl

/-- What is said to be expected is one of the texts that the constraint fixes. -/
theorem Names.expected_mem (h : c.Names x) : x.wording.expected ∈ c.askedTexts := by
  induction h with
  | string | number | choices | classes | datatype | boolean | function | defined | array
  | object => exact List.mem_cons_self
  | length hnames =>
    exact List.mem_cons_of_mem _ (List.mem_append_left _ (mem_boundTexts hnames))
  | pattern hsource hread =>
    exact List.mem_cons_of_mem _ (List.mem_append_right _ (mem_patternTexts hsource hread))
  | onlyPattern _ ih => exact ih
  | integer _ => exact List.mem_cons_of_mem _ List.mem_cons_self
  | @min o a _ ha =>
    have hbound : a ∈ o.min.toList ++ o.max.toList :=
      List.mem_append_left _ (Option.mem_toList.mpr ha)
    exact List.mem_append_right _ (List.mem_map_of_mem hbound)
  | @max o b _ hb =>
    have hbound : b ∈ o.min.toList ++ o.max.toList :=
      List.mem_append_right _ (Option.mem_toList.mpr hb)
    exact List.mem_append_right _ (List.mem_map_of_mem hbound)
  | items hitems => exact List.mem_map_of_mem (Option.mem_toList.mpr hitems)
  | @candidates candidates classes _ hclasses =>
    have hfilter : candidates.filterMap Value.class? = classes := by
      simpa [List.filterMap_map] using congrArg (List.filterMap id) hclasses
    rw [askedTexts, hfilter]
    exact List.mem_cons_self
  | arrayLength hnames => exact List.mem_cons_of_mem _ (mem_boundTexts hnames)
  | null => exact List.mem_cons_of_mem _ List.mem_cons_self

/-- There is room for what the check of a constraint says, whatever the value. -/
theorem exists_length_text_le {find : Value → Option Violation} (h : c.check.result = .ok find) :
    ∃ bound, ∀ v x, v.Fits → find v = some x → x.text.length ≤ bound := by
  obtain ⟨asked, hasked⟩ := exists_length_le c.askedTexts
  obtain ⟨received, hreceived⟩ := Violation.exists_length_received_le
  refine ⟨40 + asked + received, fun v x hv hx => ?_⟩
  obtain ⟨hnames, htrue⟩ := names_and_true h hx
  have hwords := x.length_words_le
  have hexpected := hasked _ hnames.expected_mem
  have hrepeated := hreceived v x hv htrue
  rw [x.text_eq_wording]
  simp only [String.length_append]
  omega

end Constraint

end Conform
