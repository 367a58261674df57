import AbiTypings.Document
import AbiTypings.Proofs.FirstFault
import AbiTypings.Proofs.JsonLanguage
import AbiTypings.Proofs.JsonWriting
import AbiTypings.Proofs.RefusedTexts
import AbiTypings.Proofs.SortedMembers
import AbiTypings.Proofs.Traversal

/-!
# Lists of members

A list of members is decoded element by element: its members are those that its elements give on
their own, and its fault is that of the first element with one.  Only what the reader refuses is
refused for the whole text.

* **Documents** — `listOfText_of_spells`: what is decoded depends on the tree alone that a text
  spells; `listOfText_eq_notJson_iff`: what is no JSON.
* **Names** — `wellNamed_of_ofElement`: which members have names, and which elements may have one.
* **Elements** — `listOfText_elementwise`: the list and its elements.
-/

namespace AbiTypings

open Json

/-! ## Documents -/

/-- The member that an element of the list stands for. -/
def Member.ofElement (j : Json) : Decoded Member := Member.ofJson j.sorted

/-- The members that a document's tree stands for. -/
def Document.ofTree (j : Json) : Except DocumentFault (List Member) :=
  (memberList j.sorted).bind decodeMembers

/-- The members of a list are decoded element by element. -/
theorem Document.ofTree_arr (items : List Json) :
    ofTree (.arr items) = (items.mapM Member.ofElement).mapError .malformedMember := by
  have hlist : ofTree (.arr items) = decodeMembers (sortedItems items) := rfl
  rw [hlist, sortedItems_eq_map, decodeMembers, List.mapM_map]
  rfl

/-- What the reader refuses is no JSON. -/
theorem Member.listOfText_of_read_eq_none {document : String} (h : Json.read document = none) :
    Member.listOfText document = .error (.document .notJson) := by
  rw [Member.listOfText, Document.read, h]
  rfl

/-- What a text is decoded to depends on its tree alone. -/
theorem Member.listOfText_of_spells {document : String} {j : Json}
    (h : Spells document.toList j) :
    Member.listOfText document =
      if j.depth ≤ depthLimit then (Document.ofTree j).mapError .document
      else .error (.document .notJson) := by
  rcases em (j.depth ≤ depthLimit) with hfits | hdeep
  · have hread : Json.read document = some j.sorted :=
      (readChars_of_spells h).trans (if_pos hfits)
    rw [Member.listOfText, Document.read, hread, if_pos hfits]
    rfl
  · rw [if_neg hdeep]
    exact Member.listOfText_of_read_eq_none ((readChars_of_spells h).trans (if_neg hdeep))

theorem Document.ofTree_ne_notJson (j : Json) : ofTree j ≠ .error .notJson := by
  intro h
  rcases bind_eq_error_iff.1 h with hlist | ⟨items, -, hmembers⟩
  · unfold memberList at hlist
    split at hlist
    · cases hlist
    · split at hlist <;> cases hlist
    · cases hlist
  · obtain ⟨cause, -, hcause⟩ := mapError_eq_error_iff.1 hmembers
    cases hcause

/-- A text is no JSON to the reader just if each tree that it spells, should there be one, nests too
many containers. -/
theorem Member.listOfText_eq_notJson_iff {document : String} :
    Member.listOfText document = .error (.document .notJson) ↔
      ∀ j, Spells document.toList j → depthLimit < j.depth := by
  constructor
  · intro h j hj
    by_contra hfits
    rw [Member.listOfText_of_spells hj, if_pos (Nat.not_lt.1 hfits)] at h
    obtain ⟨_, hfault, hdocument⟩ := mapError_eq_error_iff.1 h
    obtain rfl := Fault.document.inj hdocument
    exact Document.ofTree_ne_notJson j hfault
  · intro h
    refine Member.listOfText_of_read_eq_none (Option.eq_none_iff_forall_ne_some.2 fun v hv => ?_)
    obtain ⟨j, hj, hdepth, -⟩ := readChars_eq_some_iff.1 hv
    exact absurd hdepth (Nat.not_le.2 (h j hj))

/-! ## Names -/

/-- What stands for the name in an element of the list. -/
def nameOf : Json → Option Json
  | .obj members => members.reverse.lookup "name"
  | .arr items => items[1]?
  | _ => none

/-- An element has no name: there is none, or it is null or empty. -/
def Unnamed (j : Json) : Prop :=
  nameOf j = none ∨ nameOf j = some .null ∨ nameOf j = some (.str "")

/-- The names that a member and the element it stands for may have. -/
def WellNamed (j : Json) : Member → Prop
  | .constructor .. => Unnamed j
  | .function name .. | .event name .. => name ≠ ""
  | .nonCallable kind name => kind ∈ [.fallback, .receive, .error] ∧ name ≠ some ""

namespace Entry

variable {entry entry' : Entry}

/-- A member of an entry changes its name only if it is the one for the name. -/
theorem name_of_visit {key : String} {j : Json} (h : entry.visit (key, j) = .ok entry') :
    (if key = "name" then nullable asString j else .ok entry.name) = .ok entry'.name := by
  unfold visit at h
  split at h
  case h_2 heq =>
    obtain ⟨rfl, rfl⟩ := Prod.mk.inj heq
    obtain ⟨name, hname, rfl⟩ := map_eq_ok_iff.1 h
    exact hname
  case h_9 hname _ _ _ _ _ _ =>
    obtain rfl := Except.ok.inj h
    exact if_neg fun heq => hname j (congrArg (·, j) heq)
  all_goals
    rename_i heq
    obtain ⟨rfl, rfl⟩ := Prod.mk.inj heq
    obtain ⟨_, -, rfl⟩ := map_eq_ok_iff.1 h
    rfl

/-- Among members with distinct keys, the one for the name decides the name. -/
theorem name_of_visits {members : List (String × Json)} (hnodup : (members.map (·.1)).Nodup)
    (h : members.foldlM visit entry = .ok entry') :
    (match members.lookup "name" with
      | some j => nullable asString j
      | none => .ok entry.name) = .ok entry'.name := by
  induction members generalizing entry with
  | nil =>
    obtain rfl := Except.ok.inj h
    rfl
  | cons m members ih =>
    obtain ⟨key, j⟩ := m
    obtain ⟨next, hvisit, hrest⟩ := bind_eq_ok_iff.1 h
    obtain ⟨hkey, hnodup⟩ := List.nodup_cons.1 hnodup
    have hnext := name_of_visit hvisit
    replace hrest := ih hnodup hrest
    rw [lookup_cons_eq_ite]
    rcases eq_or_ne key "name" with rfl | hne
    · have hnone : members.lookup "name" = none := by
        refine List.lookup_eq_none_iff.2 fun m hm => bne_iff_ne.2 ?_
        intro heq
        have hmem : m.1 ∈ members.map (·.1) := List.mem_map_of_mem hm
        exact hkey (heq ▸ hmem)
      rw [hnone] at hrest
      rw [if_pos rfl]
      exact hnext.trans hrest
    · rw [if_neg hne] at hnext
      rw [if_neg hne.symm, Except.ok.inj hnext]
      exact hrest

theorem nodup_keys_zip {keys : List String} (h : keys.Nodup) (items : List Json) :
    ((keys.zip items).map (·.1)).Nodup := by
  induction keys generalizing items with
  | nil => exact List.nodup_nil
  | cons key keys ih =>
    obtain ⟨hkey, hkeys⟩ := List.nodup_cons.1 h
    cases items with
    | nil => exact List.nodup_nil
    | cons j items =>
      refine List.nodup_cons.2 ⟨fun hmem => ?_, ih hkeys items⟩
      obtain ⟨m, hm, rfl⟩ := List.mem_map.1 hmem
      exact hkey (List.of_mem_zip hm).1

theorem nullable_asString_sorted (j : Json) :
    nullable asString j.sorted = nullable asString j := by
  cases j <;> rfl

/-- The name of an entry is what stands for the name in its element. -/
theorem name_of_ofJson {j : Json} (h : Entry.ofJson j.sorted = .ok entry) :
    nullable asString ((nameOf j).getD .null) = .ok entry.name := by
  cases j with
  | null | bool | int | real | str => cases h
  | obj members =>
    have hname := name_of_visits (ascending_sortedMembers List.Pairwise.nil).nodup_keys h
    rw [lookup_sortedMembers, List.lookup_nil, Option.or_none] at hname
    rw [nameOf]
    rcases hlast : members.reverse.lookup "name" with _ | j
    · rw [hlast] at hname
      exact hname
    · rw [hlast] at hname
      exact (nullable_asString_sorted j).symm.trans hname
  | arr items =>
    obtain ⟨entry', hvisits, hlength⟩ := bind_eq_ok_iff.1 h
    obtain ⟨-, -, hentry⟩ := bind_eq_ok_iff.1 hlength
    obtain rfl := Except.ok.inj hentry
    have hname := name_of_visits (nodup_keys_zip (by decide) _) hvisits
    rw [sortedItems_eq_map] at hname
    rcases items with _ | ⟨_, _ | ⟨j, items⟩⟩
    · exact hname
    · exact hname
    · exact (nullable_asString_sorted j).symm.trans hname

theorem ne_empty_of_properName {name : String} (h : entry.properName = some name) : name ≠ "" := by
  simpa using (Option.filter_eq_some_iff.1 h).2

/-- An entry without a proper name comes from an element without a name. -/
theorem unnamed_of_properName {j : Json} (hentry : Entry.ofJson j.sorted = .ok entry)
    (h : entry.properName = none) : Unnamed j := by
  have hname := name_of_ofJson hentry
  have hempty (name : String) (hsome : entry.name = some name) : name = "" := by
    simpa using Option.filter_eq_none_iff.1 h name hsome
  rcases hj : nameOf j with _ | v
  · exact .inl hj
  · rw [hj] at hname
    cases v with
    | null => exact .inr (.inl hj)
    | str s =>
      rw [hempty s (Except.ok.inj hname).symm] at hj
      exact .inr (.inr hj)
    | bool | int | real | arr | obj => cases hname

end Entry

/-- A decoded member is the meaning of an entry. -/
theorem Member.exists_entry {j : Json} {m : Member} (h : Member.ofElement j = .ok m) :
    ∃ entry, Entry.ofJson j.sorted = .ok entry ∧ entry.toMember = .ok m := by
  obtain ⟨entry, hentry, hmember⟩ := bind_eq_ok_iff.1 h
  rcases hmeaning : entry.toMember with fault | member
  · rw [hmeaning] at hmember
    cases hmember
  · rw [hmeaning] at hmember
    obtain rfl := Except.ok.inj hmember
    exact ⟨entry, hentry, hmeaning⟩

/-- A member and the element it stands for have the names that they may have. -/
theorem wellNamed_of_ofElement {j : Json} {m : Member} (h : Member.ofElement j = .ok m) :
    WellNamed j m := by
  obtain ⟨entry, hentry, hmeaning⟩ := Member.exists_entry h
  unfold Entry.toMember at hmeaning
  split at hmeaning
  case h_1 | h_4 | h_6 => cases hmeaning
  case h_2 hname =>
    obtain rfl := Except.ok.inj hmeaning
    exact Entry.unnamed_of_properName hentry hname
  case h_3 hname | h_5 hname =>
    obtain rfl := Except.ok.inj hmeaning
    exact Entry.ne_empty_of_properName hname
  case h_7 hnamed hunnamed hnamedFunction hunnamedFunction hnamedEvent hunnamedEvent =>
    obtain rfl := Except.ok.inj hmeaning
    have hother {kind : MemberKind}
        (hsome : ∀ name, entry.kind.getD .function = kind → entry.properName = some name → False)
        (hnone : entry.kind.getD .function = kind → entry.properName = none → False) :
        entry.kind.getD .function ≠ kind := by
      intro hkind
      rcases hname : entry.properName with _ | name
      · exact hnone hkind hname
      · exact hsome name hkind hname
    have hconstructor := hother hnamed hunnamed
    have hfunction := hother hnamedFunction hunnamedFunction
    have hevent := hother hnamedEvent hunnamedEvent
    refine ⟨?_, fun hempty => Entry.ne_empty_of_properName hempty rfl⟩
    generalize entry.kind.getD .function = kind at hconstructor hfunction hevent ⊢
    cases kind with
    | constructor => exact absurd rfl hconstructor
    | function => exact absurd rfl hfunction
    | event => exact absurd rfl hevent
    | fallback | receive | error => decide

/-! ## Elements -/

/-- A list is nested one container deeper than its elements. -/
theorem Json.depth_arr_le_iff {items : List Json} :
    (Json.arr items).depth ≤ depthLimit ↔ ∀ j ∈ items, j.depth < depthLimit := by
  have hlimit : 0 < depthLimit := by decide
  rw [Json.depth, Nat.succ_le_iff]
  induction items with
  | nil => exact iff_of_true hlimit (List.forall_mem_nil _)
  | cons j items ih =>
    rw [itemsDepth, Nat.max_lt, List.forall_mem_cons]
    exact and_congr_right fun _ => ih

/-- An element of a list that the reader takes. -/
def Readable (text : List Char) : Prop :=
  ∃ j, Spells text j ∧ j.depth < depthLimit

section Elements

variable {document : String}

/-- A list of elements that are taken is decoded as the trees that they spell. -/
theorem listOfText_of_listText {texts : List (List Char)} {tree : List Char → Json}
    (hdocument : ListText document.toList texts)
    (h : ∀ text ∈ texts, Spells text (tree text) ∧ (tree text).depth < depthLimit) :
    Member.listOfText document = (texts.mapM fun text => Member.ofElement (tree text)).mapError
      (Fault.document ∘ DocumentFault.malformedMember) := by
  have hspells := Reader.spells_of_listText hdocument fun text htext => (h text htext).1
  have hfits := Json.depth_arr_le_iff.2 (List.forall_mem_map.2 fun text htext => (h text htext).2)
  rw [Member.listOfText_of_spells hspells, if_pos hfits, Document.ofTree_arr, List.mapM_map,
    mapError_mapError]
  rfl

/-- A list with an element that the reader does not take is no JSON to it. -/
theorem listOfText_of_not_readable {texts : List (List Char)}
    (hdocument : ListText document.toList texts) (htexts : ∀ text ∈ texts, IsText text)
    (h : ∃ text ∈ texts, ¬ Readable text) :
    Member.listOfText document = .error (.document .notJson) := by
  have hcases : ∀ text ∈ texts, (∃ j, Spells text j) ∨ Reader.Refused text :=
    fun text htext => Reader.spells_or_refused (htexts text htext)
  by_cases hspells : ∀ text ∈ texts, ∃ j, Spells text j
  · have : Nonempty Json := ⟨.null⟩
    choose! tree htree using hspells
    have hdeep : ¬ (Json.arr (texts.map tree)).depth ≤ depthLimit := by
      rw [Json.depth_arr_le_iff, List.forall_mem_map]
      obtain ⟨text, htext, hnot⟩ := h
      exact fun hfits => hnot ⟨tree text, htree text htext, hfits text htext⟩
    rw [Member.listOfText_of_spells (Reader.spells_of_listText hdocument htree), if_neg hdeep]
  · simp only [not_forall] at hspells
    obtain ⟨text, htext, hnot⟩ := hspells
    have hrefused := (hcases text htext).resolve_left hnot
    exact Member.listOfText_of_read_eq_none (readChars_of_refused
      (Reader.refused_of_listText hdocument htexts hcases ⟨text, htext, hrefused⟩))

/-- What a list of one element is decoded to depends on that element alone. -/
theorem ofElement_of_listText_single {text : List Char} {j : Json} {m : Member}
    (hdocument : ListText document.toList [text]) (hj : Spells text j)
    (hm : Member.listOfText document = .ok [m]) : Member.ofElement j = .ok m := by
  have hspells := Reader.spells_of_listText hdocument
    (List.forall_mem_singleton.2 hj : ∀ t ∈ [text], Spells t ((fun _ => j) t))
  rw [Member.listOfText_of_spells hspells] at hm
  split at hm
  · rw [mapError_eq_ok_iff, List.map_cons, List.map_nil, Document.ofTree_arr, mapError_eq_ok_iff,
      mapM_singleton_eq_ok_iff] at hm
    obtain ⟨_, hm', hms⟩ := hm
    obtain rfl := List.singleton_injective hms
    exact hm'
  · cases hm

end Elements

/-- **A list is decoded element by element.**  There is a result if and only if there is one for
each of its elements as a list of its own; its members are then the members of these lists in order,
and each has the name that it must have.  Otherwise the fault is that of the first element with one,
if the reader takes all of them; if one is nested too deep, or has a number that is too large or
half of a pair of surrogates in it, the whole list is no JSON to the reader. -/
theorem listOfText_elementwise {elements : List (List Char × String)} {document : String}
    (htexts : ∀ e ∈ elements, IsText e.1)
    (hdocument : ListText document.toList (elements.map (·.1)))
    (hsingles : ∀ e ∈ elements, ListText e.2.toList [e.1]) :
    ((∃ ms, Member.listOfText document = .ok ms) ↔
      ∀ e ∈ elements, ∃ ms, Member.listOfText e.2 = .ok ms) ∧
    (∀ ms, Member.listOfText document = .ok ms →
      List.Forall₂ (fun e m => Member.listOfText e.2 = .ok [m] ∧
        (∃ j, Spells e.1 j) ∧ ∀ j, Spells e.1 j → WellNamed j m) elements ms) ∧
    ((∀ e ∈ elements, Readable e.1) → ∀ fault,
      (Member.listOfText document = .error fault ↔ ∃ before e after,
        elements = before ++ e :: after ∧ (∀ e ∈ before, ∃ ms, Member.listOfText e.2 = .ok ms) ∧
          Member.listOfText e.2 = .error fault)) ∧
    ((∃ e ∈ elements, ¬ Readable e.1) →
      Member.listOfText document = .error (.document .notJson)) := by
  by_cases hreadable : ∀ e ∈ elements, Readable e.1
  · have : Nonempty Json := ⟨.null⟩
    choose! tree htree using fun (text : List Char) (h : Readable text) => h
    let f := fun e : List Char × String => Member.ofElement (tree e.1)
    have hwhole : Member.listOfText document =
        (elements.mapM f).mapError (Fault.document ∘ DocumentFault.malformedMember) := by
      rw [listOfText_of_listText hdocument
        (List.forall_mem_map.2 fun e he => htree e.1 (hreadable e he)), List.mapM_map]
      rfl
    have hsingle : ∀ e ∈ elements, Member.listOfText e.2 =
        ([e].mapM f).mapError (Fault.document ∘ DocumentFault.malformedMember) := fun e he =>
      listOfText_of_listText (hsingles e he)
        (List.forall_mem_singleton.2 (htree e.1 (hreadable e he)))
    refine ⟨exists_eq_ok_iff_singles hwhole hsingle, fun ms hms => ?_,
      fun _ fault => eq_error_iff_singles hwhole hsingle, fun ⟨e, he, hnot⟩ => ?_⟩
    · refine (forall₂_singles_of_eq_ok hwhole hsingle hms).imp fun e m ⟨he, hm⟩ => ?_
      exact ⟨hm, ⟨_, (htree e.1 (hreadable e he)).1⟩, fun j hj =>
        wellNamed_of_ofElement (ofElement_of_listText_single (hsingles e he) hj hm)⟩
    · exact absurd (hreadable e he) hnot
  · simp only [not_forall] at hreadable
    obtain ⟨e, he, hnot⟩ := hreadable
    have hlist := listOfText_of_not_readable hdocument (List.forall_mem_map.2 htexts)
      ⟨e.1, List.mem_map_of_mem he, hnot⟩
    have hsingle := listOfText_of_not_readable (hsingles e he)
      (List.forall_mem_singleton.2 (htexts e he)) ⟨e.1, List.mem_singleton_self _, hnot⟩
    refine ⟨iff_of_false ?_ ?_, ?_, ?_, fun _ => hlist⟩
    · rw [hlist]
      rintro ⟨_, ⟨⟩⟩
    · intro hall
      obtain ⟨ms, hms⟩ := hall e he
      rw [hsingle] at hms
      cases hms
    · rw [hlist]
      rintro _ ⟨⟩
    · exact fun hall => absurd (hall e he) hnot

/-- A fallback entry and a function without a name. -/
def unnamedAfterFallback : List Json :=
  [.obj [("type", .str "fallback")], .obj [("type", .str "function")]]

theorem listOfText_elementwise_unnamed :
    Member.listOfText (String.ofList (Json.arr unnamedAfterFallback).text) =
      .error (.document (.malformedMember
        (.refused "Invalid input document: function entry without a name"))) := by
  let elements := unnamedAfterFallback.map fun j => (j.text, String.ofList (Json.arr [j]).text)
  have hspells : ∀ j ∈ unnamedAfterFallback, Spells j.text j := by
    have hnumberless : ∀ j ∈ unnamedAfterFallback, j.numberless := by
      decide
    exact fun j hj => spells_text j (hnumberless j hj)
  have hdepth : ∀ j ∈ unnamedAfterFallback, j.depth < depthLimit := by
    decide
  have htexts : ∀ e ∈ elements, IsText e.1 :=
    List.forall_mem_map.2 fun j hj => (hspells j hj).isText
  have hdocument : ListText (String.ofList (Json.arr unnamedAfterFallback).text).toList
      (elements.map (·.1)) := by
    rw [String.toList_ofList]
    exact listText_text unnamedAfterFallback
  have hsingles : ∀ e ∈ elements, ListText e.2.toList [e.1] := by
    refine List.forall_mem_map.2 fun j _ => ?_
    rw [String.toList_ofList]
    exact listText_text [j]
  have hreadable : ∀ e ∈ elements, Readable e.1 :=
    List.forall_mem_map.2 fun j hj => ⟨j, hspells j hj, hdepth j hj⟩
  obtain ⟨-, -, herror, -⟩ := listOfText_elementwise htexts hdocument hsingles
  refine (herror hreadable _).2 ⟨[_], _, [], rfl, ?_, ?_⟩
  · exact List.forall_mem_singleton.2 (faultOf_eq_none_iff.1 (by decide +kernel))
  · exact faultOf_eq_some_iff.1 (by decide +kernel)

/-- An empty list in a number of lists. -/
def nestedLists : Nat → Json
  | 0 => .arr []
  | n + 1 => .arr [nestedLists n]

theorem depth_nestedLists (n : Nat) : (nestedLists n).depth = n + 1 := by
  induction n with
  | zero => rfl
  | succ n ih => simp [nestedLists, Json.depth, itemsDepth, ih]

theorem numberless_nestedLists (n : Nat) : (nestedLists n).numberless := by
  induction n with
  | zero => rfl
  | succ n ih => simpa [nestedLists, numberless, itemsNumberless] using ih

/-- What stands behind an element makes the text no JSON for the reader if it is nested too deep, is
a number that is too large, or has one half of a pair of surrogates; the fault of that element is
then not seen. -/
theorem listOfText_unnamed_unread :
    Member.listOfText "[\x7b\"type\":\"function\"\x7d]" = .error (.document (.malformedMember
      (.refused "Invalid input document: function entry without a name"))) ∧
    Member.listOfText (String.ofList
        (Json.arr [.obj [("type", .str "function")], nestedLists 126]).text) =
      .error (.document .notJson) ∧
    ∀ rest ∈ ["1e999", "\"\\ud800\""],
      Member.listOfText ("[\x7b\"type\":\"function\"\x7d," ++ rest ++ "]") =
        .error (.document .notJson) := by
  refine ⟨faultOf_eq_some_iff.1 (by decide +kernel), ?_, fun rest hrest => ?_⟩
  · have hnumberless :
        (Json.arr [.obj [("type", .str "function")], nestedLists 126]).numberless := by
      simp [numberless, itemsNumberless, membersNumberless, numberless_nestedLists]
    rw [Member.listOfText_of_spells (spells_ofList_text hnumberless), if_neg]
    simp [Json.depth, itemsDepth, membersDepth, depth_nestedLists, depthLimit]
  · refine faultOf_eq_some_iff.1 ?_
    revert rest
    decide +kernel

end AbiTypings
