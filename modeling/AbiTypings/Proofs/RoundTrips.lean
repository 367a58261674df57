import AbiTypings.AbiType.Json
import AbiTypings.ModuleStyle
import AbiTypings.Proofs.ParamJson

/-!
# Values written and read back

Parameters, types and the style of modules have a JSON form.  What is written is not all that is
read: members may be absent or null, stand in any order or be given as a list, and unknown ones are
skipped.  So a value that was read need not be written as it stood; but from there on its form is
settled.

* **Basic values** — `Json.exists_asUInt16` and its like: numbers are written in the range that they
  are read in.  `Json.asVariant_single`: a variant with data is read from an object of its name and
  data.
* **Types and styles** — `AbiType.ofJson_toJson` and `ModuleStyle.ofJson_toJson`, part by part.  The
  form of parameters is dealt with in `Proofs.ParamJson`.
* **Round trips** — `Json.RoundTrips` says what is asked of a form, and `written_values_read_back`
  that all three have it.
-/

namespace AbiTypings
namespace Json

/-! ## Basic values -/

theorem asNatBelow_natCast {n bound : Nat} (h : n < bound) (wanted : String) :
    asNatBelow bound wanted (.int n) = .ok n := by
  rw [asNatBelow, if_pos ⟨Int.natCast_nonneg n, Int.ofNat_lt.2 h⟩, Int.toNat_natCast]

-- What is written for a number is given a name of its own: where it can be seen, checking a proof
-- may unfold how it is read, and count up to the bound.

theorem exists_asUInt8 (n : UInt8) : ∃ j, Json.int n.toNat = j ∧ asUInt8 j = .ok n := by
  refine ⟨_, rfl, ?_⟩
  rw [asUInt8, asNatBelow_natCast n.toNat_lt]
  exact congrArg Except.ok UInt8.ofNat_toNat

theorem exists_asUInt16 (n : UInt16) : ∃ j, Json.int n.toNat = j ∧ asUInt16 j = .ok n := by
  refine ⟨_, rfl, ?_⟩
  rw [asUInt16, asNatBelow_natCast n.toNat_lt]
  exact congrArg Except.ok UInt16.ofNat_toNat

theorem exists_asSize (n : UInt64) : ∃ j, Json.int n.toNat = j ∧ asSize j = .ok n := by
  refine ⟨_, rfl, ?_⟩
  rw [asSize, asNatBelow_natCast n.toNat_lt]
  exact congrArg Except.ok UInt64.ofNat_toNat

/-- A list is read back when its elements are. -/
theorem asList_map {α : Type} {toJson : α → Json} {ofJson : Json → Decoded α}
    (h : ∀ a, ofJson (toJson a) = .ok a) (as : List α) :
    asList ofJson (.arr (as.map toJson)) = .ok as := by
  rw [asList]
  induction as with
  | nil => rfl
  | cons a as ih =>
    rw [List.map_cons, List.mapM_cons, h, ih]
    rfl

theorem asVariant_single {known : List String} {name : String} (h : name ∈ known) (data : Json) :
    asVariant known (.obj [(name, data)]) = .ok (name, some data) :=
  if_pos (List.contains_iff_mem.2 h)

/-! ## Round trips -/

/-- What is asked of the JSON form of a type of values. -/
structure RoundTrips {α : Type} (toJson : α → Json) (ofJson : Json → Decoded α) : Prop where
  /-- A form has its members in the order of their keys, each key once. -/
  sorted : ∀ a, (toJson a).sorted = toJson a
  /-- What is written is read back. -/
  read_back : ∀ a, ofJson (toJson a) = .ok a
  /-- What was read from anywhere is read back once it is written, and written as before. -/
  settled : ∀ j a, ofJson j = .ok a →
    ofJson (toJson a) = .ok a ∧ (ofJson (toJson a)).map toJson = .ok (toJson a)

/-- A form settles at once if what is written is read back. -/
theorem RoundTrips.of_read_back {α : Type} {toJson : α → Json} {ofJson : Json → Decoded α}
    (sorted : ∀ a, (toJson a).sorted = toJson a) (read_back : ∀ a, ofJson (toJson a) = .ok a) :
    RoundTrips toJson ofJson where
  sorted := sorted
  read_back := read_back
  settled _ a _ := by
    refine ⟨read_back a, ?_⟩
    rw [read_back a]
    rfl

end Json

open Json

/-! ## Types -/

theorem Elementary.ofJson_toJson (type : Elementary) :
    Elementary.ofJson type.toJson = .ok type := by
  cases type with
  | bool | address | bytes | string | function => rfl
  | uint bits =>
    obtain ⟨j, hj, hbits⟩ := exists_asUInt16 bits
    rw [toJson, hj, ofJson, asVariant_single (by decide)]
    simp only [bind, Except.bind, oneValue, hbits]
    rfl
  | int bits =>
    obtain ⟨j, hj, hbits⟩ := exists_asUInt16 bits
    rw [toJson, hj, ofJson, asVariant_single (by decide)]
    simp only [bind, Except.bind, oneValue, hbits]
    rfl
  | fixedBytes size =>
    obtain ⟨j, hj, hsize⟩ := exists_asUInt8 size
    rw [toJson, hj, ofJson, asVariant_single (by decide)]
    simp only [bind, Except.bind, oneValue, hsize]
    rfl
  | fixed signed bits decimals =>
    obtain ⟨j, hj, hbits⟩ := exists_asUInt16 bits
    obtain ⟨k, hk, hdecimals⟩ := exists_asUInt8 decimals
    rw [toJson, hj, hk, ofJson, asVariant_single (by decide)]
    simp only [bind, Except.bind, namedMembers, fixedOfMembers, List.foldlM_cons,
      FixedWidths.visit, hbits, hdecimals]
    rfl

theorem Dimension.ofJson_toJson (dim : Dimension) : Dimension.ofJson dim.toJson = .ok dim := by
  cases dim with
  | dynamic => rfl
  | fixed size =>
    obtain ⟨j, hj, hsize⟩ := exists_asSize size
    rw [toJson, hj, ofJson, asVariant_single (by decide)]
    simp only [bind, Except.bind, oneValue, hsize]
    rfl

theorem BaseType.ofJson_toJson (base : BaseType) : BaseType.ofJson base.toJson = .ok base := by
  cases base with
  | tuple => rfl
  | elementary type =>
    rw [toJson, ofJson, asVariant_single (by decide)]
    simp only [bind, Except.bind, oneValue, type.ofJson_toJson]
    rfl

/-- A type is read back from its JSON form. -/
theorem AbiType.ofJson_toJson (type : AbiType) : AbiType.ofJson type.toJson = .ok type := by
  have hdims : asList Dimension.ofJson (.arr (type.dims.map Dimension.toJson)) = .ok type.dims :=
    asList_map Dimension.ofJson_toJson type.dims
  simp only [toJson, ofJson, List.foldlM_cons, AbiTypeMembers.visit, type.base.ofJson_toJson,
    hdims]
  rfl

theorem Elementary.sorted_toJson (type : Elementary) : type.toJson.sorted = type.toJson := by
  cases type with
  | bool | address | uint | int | fixedBytes | bytes | string | function => rfl
  | fixed signed bits decimals =>
    have hwidths : (Json.obj [("bits", .int bits.toNat), ("decimals", .int decimals.toNat),
        ("signed", .bool signed)]).sorted = .obj [("bits", .int bits.toNat),
        ("decimals", .int decimals.toNat), ("signed", .bool signed)] :=
      sorted_obj_of_ascending
        (@ascending_of_keys _ ["bits", "decimals", "signed"] rfl (by decide))
        (by simp [Json.sorted])
    exact sorted_obj_of_ascending (@ascending_of_keys _ ["Fixed"] rfl (by decide))
      (by simp [hwidths])

theorem BaseType.sorted_toJson (base : BaseType) : base.toJson.sorted = base.toJson := by
  cases base with
  | tuple => rfl
  | elementary type =>
    exact sorted_obj_of_ascending (@ascending_of_keys _ ["Scalar"] rfl (by decide))
      (by simp [type.sorted_toJson])

theorem Dimension.sorted_toJson (dim : Dimension) : dim.toJson.sorted = dim.toJson := by
  cases dim <;> rfl

theorem AbiType.sorted_toJson (type : AbiType) : type.toJson.sorted = type.toJson := by
  have hdims : (Json.arr (type.dims.map Dimension.toJson)).sorted =
      .arr (type.dims.map Dimension.toJson) := by
    rw [Json.sorted, sortedItems_eq_map, List.map_map]
    congr 2
    exact funext Dimension.sorted_toJson
  exact sorted_obj_of_ascending (@ascending_of_keys _ ["base", "dims"] rfl (by decide))
    (by simp [type.base.sorted_toJson, hdims])

/-! ## Styles -/

theorem Indentation.ofJson_toJson (indentation : Indentation) :
    Indentation.ofJson indentation.toJson = .ok indentation := by
  cases indentation with
  | tabs => rfl
  | spaces count =>
    obtain ⟨j, hj, hcount⟩ := exists_asSize count
    rw [toJson, hj, ofJson, asVariant_single (by decide)]
    simp only [bind, Except.bind, oneValue, hcount]
    rfl

theorem ModuleStyle.ofJson_toJson (style : ModuleStyle) :
    ModuleStyle.ofJson style.toJson = .ok style := by
  simp only [toJson, ofJson, List.foldlM_cons, visit, style.indentation.ofJson_toJson]
  rfl

theorem ModuleStyle.sorted_toJson (style : ModuleStyle) : style.toJson.sorted = style.toJson := by
  have hindentation : style.indentation.toJson.sorted = style.indentation.toJson := by
    cases style.indentation <;> rfl
  exact sorted_obj_of_ascending
    (@ascending_of_keys _ ["common_types_module", "include_docs", "indent_style",
      "type_only_imports"] rfl (by decide))
    (by simp [Json.sorted, hindentation])

/-! ## All forms -/

/-- **Written values are read back.**  Parameters with components nested to any depth, types with
any widths and dimensions, and styles of modules are read back from their JSON forms as they were.
Whatever else a value is read from, its own form is read as the same value and written again
unchanged. -/
theorem written_values_read_back :
    RoundTrips Param.toJson Param.ofJson ∧ RoundTrips AbiType.toJson AbiType.ofJson ∧
      RoundTrips ModuleStyle.toJson ModuleStyle.ofJson :=
  ⟨.of_read_back Param.sorted_toJson Param.ofJson_toJson,
    .of_read_back AbiType.sorted_toJson AbiType.ofJson_toJson,
    .of_read_back ModuleStyle.sorted_toJson ModuleStyle.ofJson_toJson⟩

/-- Components that are null are absent, and are not written. -/
example :
    (Param.ofJson (.obj [("components", .null), ("type", .str "tuple")])).map Param.toJson =
      .ok (.obj [("indexed", .bool false), ("name", .str ""), ("type", .str "tuple")]) := by
  rfl

/-- An empty list of components is written as such. -/
example :
    (Param.ofJson (.arr [.null, .str "tuple", .arr []])).map Param.toJson =
      .ok (.obj [("components", .arr []), ("indexed", .bool false), ("name", .str ""),
        ("type", .str "tuple")]) := by
  rfl

end AbiTypings
