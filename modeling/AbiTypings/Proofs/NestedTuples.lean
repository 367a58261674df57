import AbiTypings.Modules
import AbiTypings.Proofs.Compilation
import AbiTypings.Proofs.DecodedParts
import AbiTypings.Proofs.ParamJson
import AbiTypings.Proofs.TypeTree
import Mathlib.Data.List.Chain

/-!
# Nested tuples

Tuples that are nested in one another become a record each, however many they are.  What limits
their number is the reader of the document, which refuses texts in which too many containers are
nested: every tuple takes two.
-/

namespace AbiTypings

open Json

/-! ## Parameters -/

namespace Param

/-- A value that is neither an array nor composite, of a type for which there is a token. -/
def IsScalar (p : Param) : Prop :=
  p.components = none ∧ ∃ type : Elementary,
    AbiType.ofTag? p.typeTag = some ⟨.elementary type, []⟩ ∧ ¬ type.isFixedPoint

/-- A tuple that is not in an array. -/
def IsTuple (p : Param) : Prop :=
  AbiType.ofTag? p.typeTag = some ⟨.tuple, []⟩

/-- Tuples nested in one another around a parameter, the outermost first. -/
def nested (leaf : Param) : List Param → Param
  | [] => leaf
  | p :: ps => { p with components := some [nested leaf ps] }

end Param

/-! ## Records -/

section Records

variable (scope token : String) (leaf : Param)

/-- The name that the record of a tuple asks for which stands first in a list of inputs or
components. -/
def tupleName (p : Param) : String :=
  paramRecordName scope p (p.nameOr Role.request.placeholder 0) .request

/-- The token of nested tuples, by the token of what is in them. -/
def nestedToken : List Param → String
  | [] => token
  | p :: _ => tupleName scope p

/-- The one field of the record of a tuple, by the tuples in it. -/
def nestedField (tuples : List Param) : Field :=
  ⟨(leaf.nested tuples).nameOr Role.request.placeholder 0, nestedToken scope token tuples⟩

/-- The records of nested tuples, the innermost first. -/
def nestedRecords : List Param → List Record
  | [] => []
  | p :: ps => nestedRecords ps ++
      [⟨tupleName scope p, .request, [nestedField scope token leaf ps]⟩]

variable {scope token leaf} {tuples : List Param}

/-- The records of nested tuples are named from the innermost to the outermost. -/
theorem map_name_nestedRecords :
    (nestedRecords scope token leaf tuples).map Record.name =
      (tuples.map (tupleName scope)).reverse := by
  induction tuples with
  | nil => rfl
  | cons p ps ih =>
    rw [nestedRecords, List.map_append, ih]
    exact List.reverse_cons.symm

/-- The fields of the records have the token of what is in the tuples, or the name of a tuple but
the outermost. -/
theorem type_of_mem_nestedRecords {record : Record}
    (h : record ∈ nestedRecords scope token leaf tuples) {field : Field}
    (hfield : field ∈ record.fields) :
    field.type = token ∨ field.type ∈ tuples.tail.map (tupleName scope) := by
  induction tuples with
  | nil => cases h
  | cons p ps ih =>
    rw [nestedRecords, List.mem_append, List.mem_singleton] at h
    rcases h with h | rfl
    · refine (ih h).imp_right fun hmem => ?_
      exact List.map_subset _ (fun _ => List.mem_of_mem_tail) hmem
    · obtain rfl := List.mem_singleton.1 hfield
      cases ps with
      | nil => exact .inl rfl
      | cons q qs => exact .inr List.mem_cons_self

theorem mem_R_tupleName (scope : String) (p : Param) : 'R' ∈ (tupleName scope p).toList := by
  have hnames : Role.request.Names (tupleName scope p) :=
    ⟨tupleName scope p, paramRecordName_asks _ _ _ _, .inl rfl⟩
  exact hnames.mem_R

/-- No record has a field of the outermost tuple, if the names are distinct. -/
theorem fields_ne_of_mem_nestedRecords (hnodup : (tuples.map (tupleName scope)).Nodup)
    (htoken : 'R' ∉ token.toList) {record : Record}
    (h : record ∈ nestedRecords scope token leaf tuples) :
    record.fields ≠ [nestedField scope token leaf tuples] := by
  intro hfields
  cases tuples with
  | nil => cases h
  | cons p ps =>
    have hmem : nestedField scope token leaf (p :: ps) ∈ record.fields :=
      hfields ▸ List.mem_singleton_self _
    rcases type_of_mem_nestedRecords h hmem with htype | htype
    · have hsame : tupleName scope p = token := htype
      exact htoken (hsame ▸ mem_R_tupleName scope p)
    · exact (List.nodup_cons.1 hnodup).1 htype

/-- Each record after the first has a field of the record before it. -/
theorem isChain_nestedRecords :
    (nestedRecords scope token leaf tuples).IsChain
      fun inner outer => ∃ field ∈ outer.fields, field.type = inner.name := by
  induction tuples with
  | nil => exact .nil
  | cons p ps ih =>
    rw [nestedRecords, List.isChain_append]
    refine ⟨ih, .singleton _, fun inner hinner outer houter => ?_⟩
    obtain rfl := Option.some.inj houter
    cases ps with
    | nil => cases hinner
    | cons q qs =>
      rw [nestedRecords, List.getLast?_append, List.getLast?_singleton, Option.some_or] at hinner
      obtain rfl := Option.some.inj hinner
      exact ⟨_, List.mem_singleton_self _, rfl⟩

end Records

/-! ## Compilation -/

section Compilation

variable {profile : Profile} {scope token : String} {leaf : Param} {tuples : List Param}
  {position : Position} {r : Registry}

/-- A scalar has a token, and gets it without registering anything. -/
theorem Param.IsScalar.exists_token (hleaf : leaf.IsScalar) (hplain : profile.Plain)
    (scope : String) (role : Role) : ∃ token, 'R' ∉ token.toList ∧
      ∀ (position : Position) (r : Registry),
        (typeToken profile scope role leaf position).run r = (.ok token, r) := by
  obtain ⟨name, typeTag, components, internalType, indexed⟩ := leaf
  obtain ⟨rfl, type, htype, hfixed⟩ := hleaf
  obtain ⟨token, htoken⟩ : ∃ token, type.token? profile role.side = some token := by
    rw [← Option.isSome_iff_exists, Option.isSome_iff_ne_none]
    exact fun hnone => hfixed ((token?_eq_none_iff profile role.side).1 hnone)
  refine ⟨arrayToken token [], not_mem_R_arrayToken (hplain _ _ _ htoken) [], fun position r => ?_⟩
  exact typeToken_plain_eq_ok.2 ⟨⟨_, type, token, htype, rfl, htoken, rfl⟩, rfl⟩

/-- The record of a tuple is a new one, if the names are distinct. -/
theorem add_tuple {s : Registry} (hs : s.WellFormed)
    (hrecords : s.records = nestedRecords scope token leaf tuples) {p : Param}
    (hfree : tupleName scope p ∉ tuples.map (tupleName scope))
    (hnodup : (tuples.map (tupleName scope)).Nodup) (htoken : 'R' ∉ token.toList) :
    s.add (tupleName scope p) .request [nestedField scope token leaf tuples] =
      (tupleName scope p,
        s.push (tupleName scope p) ⟨.request, [nestedField scope token leaf tuples]⟩) := by
  have hnew : ∀ record ∈ s.records,
      record.shape = ⟨.request, [nestedField scope token leaf tuples]⟩ →
        Role.request = .event ∧ record.name ≠ tupleName scope p := by
    intro record hmem hshape
    rw [hrecords] at hmem
    exact absurd (congrArg Shape.fields hshape) (fields_ne_of_mem_nestedRecords hnodup htoken hmem)
  have hname : tupleName scope p ∉ s.names := by
    rw [hs.names_eq, hrecords, map_name_nestedRecords, List.mem_reverse]
    exact hfree
  rw [Registry.add_of_forall_ne hs hnew, Registry.unusedName_of_not_mem hname]

/-- The records of nested tuples are registered from the innermost to the outermost. -/
theorem typeToken_nested (htuples : ∀ p ∈ tuples, p.IsTuple)
    (hnodup : (tuples.map (tupleName scope)).Nodup) (htoken : 'R' ∉ token.toList)
    (hleaf : ∀ (position : Position) (r : Registry),
      (typeToken profile scope .request leaf position).run r = (.ok token, r))
    (hindex : position.index = 0) (hr : r.WellFormed) (hempty : r.records = []) :
    ∃ s, (typeToken profile scope .request (leaf.nested tuples) position).run r =
        (.ok (nestedToken scope token tuples), s) ∧
      s.records = nestedRecords scope token leaf tuples := by
  induction tuples generalizing position with
  | nil => exact ⟨r, hleaf position r, hempty⟩
  | cons p ps ih =>
    rw [List.forall_mem_cons] at htuples
    obtain ⟨hfree, hnodup⟩ := List.nodup_cons.1 hnodup
    have hcomponent : (position.component 0).index = 0 := rfl
    obtain ⟨s, hrun, hrecords⟩ := ih htuples.2 hnodup hcomponent
    have hs : s.WellFormed := ((typeToken_reaches _ _ _ _ _).of_run hrun).wellFormed hr
    have htypes : (typeTokens profile scope .request position.component 0 [leaf.nested ps]).run r =
        (.ok [nestedToken scope token ps], s) :=
      typeTokens_cons_eq_ok.2 ⟨_, _, [], hrun, typeTokens_nil_eq_ok.2 ⟨rfl, rfl⟩, rfl⟩
    have hadd := add_tuple hs hrecords hfree hnodup htoken
    obtain ⟨name, typeTag, components, internalType, indexed⟩ := p
    obtain ⟨index, path⟩ := position
    obtain rfl : index = 0 := hindex
    refine ⟨_, typeToken_composite_eq_ok.2
      ⟨_, _, s, htuples.1, rfl, htypes, _, _, rfl, rfl, ?_, rfl⟩, ?_⟩
    · exact (String.append_empty.trans (congrArg Prod.fst hadd)).symm
    · rw [nestedRecords, ← hrecords]
      exact congrArg (·.2.records) hadd

/-- Outputs that need no record. -/
def AtMostScalar (outputs : List Param) : Prop :=
  outputs = [] ∨ ∃ output, outputs = [output] ∧ output.IsScalar

/-- Outputs without composite parameters leave the registry as it is. -/
theorem exists_result (hplain : profile.Plain) (name : String) (effect : CallEffect)
    {outputs : List Param} (houtputs : AtMostScalar outputs) (r : Registry) :
    ∃ result, (resultOf profile name effect outputs).run r = (.ok result, r) := by
  rcases houtputs with rfl | ⟨output, rfl, houtput⟩
  · exact ⟨.void, rfl⟩
  · obtain ⟨token, -, htoken⟩ := houtput.exists_token hplain name .response
    exact ⟨.value token, resultOf_single_eq_ok.2 ⟨token, htoken _ r, rfl⟩⟩

/-- However many tuples are nested in one another, each has a record. -/
theorem Bindings.ofMembers_nested (options : Options) {name : String} (traits : CallTraits)
    {outputs : List Param} (hleaf : leaf.IsScalar) (htuples : ∀ p ∈ tuples, p.IsTuple)
    (hnodup : (tuples.map (tupleName name)).Nodup) (houtputs : AtMostScalar outputs) :
    ∃ b token, Bindings.ofMembers options
        [.function name [leaf.nested tuples] outputs traits] = .ok b ∧
      b.records = nestedRecords name token leaf tuples := by
  have hplain := options.dialect.plain_profile
  obtain ⟨token, htoken, hrun⟩ := hleaf.exists_token hplain name .request
  have hempty : (Registry.noteMethod {} name).WellFormed := Registry.wellFormed_empty.noteMethod
  have hindex : (Position.input 0).index = 0 := rfl
  obtain ⟨s, htype, hrecords⟩ := typeToken_nested htuples hnodup htoken hrun hindex hempty rfl
  have htypes := typeTokens_cons_eq_ok.2 ⟨_, _, [], htype, typeTokens_nil_eq_ok.2 ⟨rfl, rfl⟩, rfl⟩
  obtain ⟨result, hresult⟩ := exists_result hplain name traits.effect houtputs s
  obtain ⟨method, hmethod⟩ : ∃ method, (Method.ofFunction options.dialect.profile name
      [leaf.nested tuples] outputs traits).run {} = (.ok method, s) :=
    ⟨_, Method.ofFunction_eq_ok.2 ⟨_, s, result, recordFields_eq_ok.2 ⟨_, htypes, rfl⟩, hresult,
      rfl⟩⟩
  let c := Compilation.addMethod { registry := s } method
  have hbind : Compilation.bindMember options.dialect.profile {}
      (.function name [leaf.nested tuples] outputs traits) = (.ok (), c) :=
    Compilation.register_eq_ok.2 ⟨method, s, hmethod, rfl⟩
  exact ⟨c.bindings options, token,
    Bindings.ofMembers_eq_ok.2 ⟨c, Compilation.bindMembers_cons_eq_ok.2 ⟨c, hbind, rfl⟩, rfl⟩,
    hrecords⟩

end Compilation

/-! ## Depth -/

section Depth

variable {leaf : Param} {tuples : List Param}

theorem exists_of_mapM_singleton {items : List Json} {p : Param}
    (h : (items.map sorted).mapM Param.ofJson = .ok [p]) :
    ∃ j, items = [j] ∧ Param.ofJson j.sorted = .ok p := by
  have hall := mapM_eq_ok_iff_forall₂.1 h
  rw [List.forall₂_map_left_iff] at hall
  cases hall with
  | cons hj hrest =>
    cases hrest
    exact ⟨_, rfl, hj⟩

/-- Each of nested tuples takes an object or a list for itself, and a list for its components. -/
theorem length_le_depth_of_ofJson {j : Json}
    (h : Param.ofJson j.sorted = .ok (leaf.nested tuples)) : 2 * tuples.length + 1 ≤ j.depth := by
  induction tuples generalizing j with
  | nil =>
    cases j with
    | obj | arr => exact Nat.succ_le_succ (Nat.zero_le _)
    | null | bool | int | real | str => cases h
  | cons p ps ih =>
    obtain ⟨items, hpart, hitems⟩ := Param.exists_components h rfl
    obtain ⟨inner, rfl, hinner⟩ := exists_of_mapM_singleton hitems
    have hdepth := ih hinner
    have hlt := depth_lt_of_mem_parts hpart
    have hle := depth_le_itemsDepth (List.mem_singleton_self inner)
    rw [Json.depth] at hlt
    rw [List.length_cons]
    omega

theorem length_le_depth_of_ofElement {j : Json} {name : String} {outputs : List Param}
    {traits : CallTraits}
    (h : Member.ofElement j = .ok (.function name [leaf.nested tuples] outputs traits)) :
    2 * tuples.length + 4 ≤ (Json.arr [j]).depth := by
  obtain ⟨items, hpart, hitems⟩ := Member.exists_inputs h (List.cons_ne_nil _ _)
  obtain ⟨p, rfl, hp⟩ := exists_of_mapM_singleton hitems
  have hdepth := length_le_depth_of_ofJson hp
  have hlt := depth_lt_of_mem_parts hpart
  have hle := depth_le_itemsDepth (List.mem_singleton_self p)
  have hle' := depth_le_itemsDepth (List.mem_singleton_self j)
  rw [Json.depth] at hlt ⊢
  omega

/-- The plain form of a function with one input. -/
def functionJson (name : String) (p : Param) : Json :=
  .obj [("inputs", .arr [p.toJson]), ("name", .str name), ("type", .str "function")]

/-- Each of nested tuples takes two containers in its plain form. -/
theorem depth_nested_toJson (hleaf : leaf.components = none) :
    (leaf.nested tuples).toJson.depth = 2 * tuples.length + 1 := by
  induction tuples with
  | nil =>
    obtain ⟨name, typeTag, components, internalType, indexed⟩ := leaf
    obtain rfl : components = none := hleaf
    cases internalType <;> rfl
  | cons p ps ih =>
    obtain ⟨name, typeTag, components, internalType, indexed⟩ := p
    cases internalType <;>
      simp [Param.nested, Param.toJson, Param.componentsToJson, Param.listToJson, Json.depth,
        membersDepth, itemsDepth, ih] <;>
      omega

theorem depth_functionJson (hleaf : leaf.components = none) (name : String) :
    (Json.arr [functionJson name (leaf.nested tuples)]).depth = 2 * tuples.length + 4 := by
  simp [functionJson, Json.depth, membersDepth, itemsDepth, depth_nested_toJson hleaf]

/-- A function is read back from its plain form. -/
theorem ofElement_functionJson {name : String} (hname : name ≠ "") (p : Param) :
    Member.ofElement (functionJson name p) = .ok (.function name [p] [] {}) := by
  have hsorted : (functionJson name p).sorted = functionJson name p := by
    refine sorted_obj_of_ascending ?_ ?_
    · exact @ascending_of_keys _ ["inputs", "name", "type"] rfl (by decide)
    · simp [sorted, sortedItems, Param.sorted_toJson]
  have hinputs : paramsOfJson (.arr [p.toJson]) = .ok [p] := by
    rw [paramsOfJson, Param.listOfJson, Param.ofJson_toJson]
    rfl
  have hentry : Entry.ofJson (functionJson name p) =
      .ok { kind := some .function, name := some name, inputs := [p] } := by
    have hvisit : Entry.visit {} ("inputs", .arr [p.toJson]) = .ok { inputs := [p] } :=
      congrArg (Except.map _) hinputs
    rw [functionJson, Entry.ofJson, List.foldlM_cons, hvisit]
    rfl
  have hmember : Entry.toMember { kind := some .function, name := some name, inputs := [p] } =
      .ok (.function name [p] [] {}) := by
    have hproper : Entry.properName { kind := some .function, name := some name, inputs := [p] } =
        some name := by
      simp [Entry.properName, hname]
    rw [Entry.toMember, hproper]
    rfl
  rw [Member.ofElement, hsorted, Member.ofJson, hentry]
  simp only [bind, Except.bind, hmember]

end Depth

/-! ## Documents -/

/-- **Tuples that are nested in one another become a record each**, the innermost first, and each
record has a field of the one before it.  The reader is all that limits their number: the document
must not nest too many containers, and each tuple takes two of them. -/
theorem Bindings.ofText_nestedTuples (options : Options) {document : String} {entry : Json}
    {name : String} {leaf : Param} {tuples outputs : List Param} {traits : CallTraits}
    (hdocument : Spells document.toList (.arr [entry]))
    (hentry : Member.ofElement entry = .ok (.function name [leaf.nested tuples] outputs traits))
    (hleaf : leaf.IsScalar) (htuples : ∀ p ∈ tuples, p.IsTuple)
    (hnodup : (tuples.map (tupleName name)).Nodup) (houtputs : AtMostScalar outputs) :
    ((Json.arr [entry]).depth ≤ depthLimit →
      ∃ b, Bindings.ofText document options = .ok b ∧ b.records.length = tuples.length ∧
        b.records.map Record.name = (tuples.map (tupleName name)).reverse ∧
        b.records.IsChain fun inner outer => ∃ field ∈ outer.fields, field.type = inner.name) ∧
    (depthLimit < (Json.arr [entry]).depth →
      Bindings.ofText document options = .error (.document .notJson)) ∧
    2 * tuples.length + 4 ≤ (Json.arr [entry]).depth ∧
    (entry = functionJson name (leaf.nested tuples) →
      (Json.arr [entry]).depth = 2 * tuples.length + 4) := by
  have hread := Member.listOfText_of_spells hdocument
  refine ⟨fun hfits => ?_, fun hdeep => ?_, length_le_depth_of_ofElement hentry, ?_⟩
  · obtain ⟨b, token, hb, hrecords⟩ :=
      Bindings.ofMembers_nested options traits hleaf htuples hnodup houtputs
    have hmembers : Member.listOfText document =
        .ok [.function name [leaf.nested tuples] outputs traits] := by
      rw [hread, if_pos hfits, Document.ofTree_arr, List.mapM_cons, hentry]
      rfl
    have hnames : b.records.map Record.name = (tuples.map (tupleName name)).reverse := by
      rw [hrecords, map_name_nestedRecords]
    refine ⟨b, ?_, ?_, hnames, ?_⟩
    · rw [Bindings.ofText, hmembers]
      exact hb
    · simpa using congrArg List.length hnames
    · rw [hrecords]
      exact isChain_nestedRecords
  · rw [Bindings.ofText, hread, if_neg (Nat.not_le.2 hdeep)]
    rfl
  · rintro rfl
    exact depth_functionJson hleaf.1 name

/-! ## Towers -/

/-- A tuple with a numbered name. -/
def level (i : Nat) : Param :=
  ⟨"t" ++ toString i, "tuple", none, none, false⟩

/-- Tuples with numbered names, nested in one another around a value of the given type. -/
def tower (height : Nat) (typeTag : String) : Param :=
  Param.nested ⟨"top", typeTag, none, none, false⟩ ((List.range height).map level)

/-- The text of a function whose input is a tower. -/
def towerText (height : Nat) (typeTag : String) : String :=
  String.ofList (Json.arr [functionJson "dig" (tower height typeTag)]).text

theorem isTuple_of_mem_levels {height : Nat} :
    ∀ p ∈ (List.range height).map level, p.IsTuple := by
  have htag : AbiType.ofTag? "tuple" = some ⟨.tuple, []⟩ := by decide +kernel
  exact List.forall_mem_map.2 fun _ _ => htag

theorem tupleName_level (scope : String) (i : Nat) :
    tupleName scope (level i) =
      Text.capitalize scope ++ ("T" ++ toString i) ++ Role.request.ending := by
  have hname : (level i).nameOr Role.request.placeholder 0 = "t" ++ toString i := by
    simp [Param.nameOr, level]
  have hcapital : Text.capitalize ("t" ++ toString i) = "T" ++ toString i := by
    rw [Text.capitalize, String.toList_append]
    exact String.ofList_append.trans (congrArg _ String.ofList_toList)
  rw [tupleName, hname, paramRecordName, hcapital]
  rfl

theorem nodup_levels (scope : String) (height : Nat) :
    (((List.range height).map level).map (tupleName scope)).Nodup := by
  rw [List.map_map]
  refine List.nodup_range.map fun i j h => ?_
  simp only [Function.comp_apply, tupleName_level] at h
  exact Registry.append_toString_injective "T" (by simpa using h)

theorem spells_towerText (height : Nat) (typeTag : String) :
    Spells (towerText height typeTag).toList
      (.arr [functionJson "dig" (tower height typeTag)]) := by
  refine spells_ofList_text ?_
  simp [functionJson, numberless, itemsNumberless, membersNumberless, Param.numberless_toJson]

theorem depth_tower (height : Nat) (typeTag : String) :
    (Json.arr [functionJson "dig" (tower height typeTag)]).depth = 2 * height + 4 := by
  rw [tower, depth_functionJson rfl, List.length_map, List.length_range]

/-- A tower is read back up to the height at which it nests too deep. -/
theorem listOfText_towerText (height : Nat) (typeTag : String) :
    Member.listOfText (towerText height typeTag) =
      if 2 * height + 4 ≤ depthLimit then .ok [.function "dig" [tower height typeTag] [] {}]
      else .error (.document .notJson) := by
  rw [Member.listOfText_of_spells (spells_towerText height typeTag), depth_tower,
    Document.ofTree_arr, List.mapM_cons, ofElement_functionJson (by decide)]
  rfl

theorem ofText_nestedTuples_tower : ∃ b,
    Bindings.ofText (towerText 61 "bool") { dialect := .web3 } = .ok b ∧ b.records.length = 61 := by
  have hdocument := spells_towerText 61 "bool"
  have hentry := @ofElement_functionJson "dig" (by decide) (tower 61 "bool")
  obtain ⟨hok, -⟩ := Bindings.ofText_nestedTuples { dialect := .web3 } hdocument hentry
    ⟨rfl, .bool, by decide +kernel⟩ isTuple_of_mem_levels (nodup_levels "dig" 61) (.inl rfl)
  obtain ⟨b, hb, hlength, -⟩ := hok (by rw [depth_tower]; decide)
  exact ⟨b, hb, hlength⟩

/-- One tuple more makes a text that is not read, and around a fixed-point number there are no
bindings at all. -/
theorem ofText_tower_error :
    ((∀ p ∈ (List.range 62).map level, p.IsTuple) ∧
      (((List.range 62).map level).map (tupleName "dig")).Nodup ∧
      Spells (towerText 62 "bool").toList (.arr [functionJson "dig" (tower 62 "bool")]) ∧
      Bindings.ofText (towerText 62 "bool") { dialect := .web3 } = .error (.document .notJson)) ∧
    Bindings.ofText (towerText 1 "fixed128x18") { dialect := .web3 } =
      .error (.type "fixed128x18" (some ⟨"dig", "inputs[0].components[0]"⟩)) := by
  refine ⟨⟨isTuple_of_mem_levels, nodup_levels "dig" 62, spells_towerText 62 "bool", ?_⟩, ?_⟩
  · rw [Bindings.ofText, listOfText_towerText]
    rfl
  · rw [Bindings.ofText, listOfText_towerText]
    decide +kernel

end AbiTypings
