import AbiTypings.Proofs.CommandRuns
import AbiTypings.Proofs.Compilation
import AbiTypings.Proofs.ModuleLines
import AbiTypings.Proofs.Numerals

/-!
# Generating modules

Generating modules makes the directory for them where it is missing, and then writes two files: the
typings and, after them, the companion.  It can end before the first, between them, or after the
second (`GenerateEnds`), and everything else in the tree stays what it was.

* **Ends** — `generateEnds`: these are all the ways in which the command ends, for every tree and
  every invocation.  It is proved part by part, in the order in which the command does its work.
* **Success** — `generated_of_run`: after a run that succeeds and reports no skipping, the companion
  is where its path leads.  The typings are where theirs leads exactly when this is another place;
  for a stem without slashes, when the stem is not `common`.
* **Overwriting** — `overwrites_iff`: where overwriting is prevented, the only file that can change
  is the companion module, and it does whenever both modules are written and it had another text.
-/

namespace AbiTypings.CommandLine

variable {input stem output : String} {options : Options} {style : ModuleStyle}
  {destination : Destination} {verbose : Bool} {t t' made : FileTree} {b : Bindings}
  {place typings companion : Place}

/-! ## Where modules go -/

namespace Destination

/-- The path of the typings module. -/
def typingsPath (destination : Destination) (input stem : String) : String :=
  Path.join (destination.directoryFor input) (stem ++ ".types.ts")

/-- The path of the companion module. -/
def companionPath (destination : Destination) (input : String) : String :=
  Path.join (destination.directoryFor input) companionFile

theorem directoryFor_ne_empty (destination : Destination) (input : String) :
    destination.directoryFor input ≠ "" := by
  unfold directoryFor
  dsimp only
  split
  · decide
  · assumption

/-- The name of a module stays as it is in the place it leads to. -/
theorem follow_moduleName (place : Place) (stem : String) :
    FileTree.follow place (stem ++ ".types.ts") = place ++ [stem ++ ".types.ts"] := by
  have hlength : 9 ≤ (stem ++ ".types.ts").length := by
    have hending : ".types.ts".length = 9 := by decide
    rw [String.length_append, hending]
    omega
  have hne (short : String) (hshort : short.length < 9) : stem ++ ".types.ts" ≠ short := by
    rintro rfl
    omega
  unfold FileTree.follow Path.isIdle
  simp [hne "" (by decide), hne "." (by decide), hne ".." (by decide)]

/-- Both modules go to one place exactly when the stem is that of the companion module. -/
theorem places_eq_iff (hstem : '/' ∉ stem.toList)
    (htypings : t.locate (destination.typingsPath input stem) = .ok typings)
    (hcompanion : t.locate (destination.companionPath input) = .ok companion) :
    typings = companion ↔ stem = "common" := by
  have hfile : companionFile = "common" ++ ".types.ts" := by decide
  have hname {s : String} (hs : '/' ∉ s.toList) : '/' ∉ (s ++ ".types.ts").toList := by
    simp [hs]
  unfold companionPath at hcompanion
  rw [hfile] at hcompanion
  obtain ⟨above, rfl, rfl⟩ := FileTree.exists_follow_of_locate_join
    (destination.directoryFor_ne_empty input) (hname hstem) (hname (by decide)) htypings hcompanion
  rw [follow_moduleName, follow_moduleName, List.append_cancel_left_eq, List.singleton_inj,
    String.append_left_inj]

end Destination

/-! ## Preparing -/

/-- Preparing a directory makes directories at most, whether it succeeds or fails. -/
theorem runOn_prepareDirectory (destination : Destination) (input output : String) (t : FileTree) :
    ∃ result t', runOn (prepareDirectory FileTree.access destination input) output t =
        (result, output, t') ∧ t.AddsDirectories t' ∧
      ∀ directory, result = .ok directory → directory = destination.directoryFor input := by
  have haction : (FileTree.access.isDirectory (destination.directoryFor input)).run t =
    (t.at? (destination.directoryFor input) == some .directory, t) := rfl
  unfold prepareDirectory
  dsimp only
  rw [runOn_bind, runOn_perform]
  dsimp only
  rw [haction]
  dsimp only
  split
  · exact ⟨_, t, rfl, .refl t, fun _ h => (Except.ok.inj h).symm⟩
  · split
    · have hadds := t.addsDirectories_makeDirectories (destination.directoryFor input)
      rw [runOn_bind, runOn_attempt]
      rcases ((FileTree.access.makeDirectories (destination.directoryFor input)).run t).1 with e | _
      · exact ⟨_, _, rfl, hadds, fun _ h => by cases h⟩
      · exact ⟨_, _, rfl, hadds, fun _ h => (Except.ok.inj h).symm⟩
    · exact ⟨_, t, rfl, .refl t, fun _ h => by cases h⟩

/-! ## How generating ends -/

/-- The output ends in the warning that there is a typings module already. -/
def ReportsSkip (output : String) : Prop :=
  "already exists, skipping (--prevent-overwrite)\n".toList <:+ output.toList

instance (output : String) : Decidable (ReportsSkip output) :=
  inferInstanceAs (Decidable (_ <:+ _))

/-- An output whose last line does not end in a bracket does not end in the warning. -/
theorem not_reportsSkip_unlines {last : String} {front : List Char} {c : Char} (hc : c ≠ ')')
    (hlast : last.toList = front ++ [c]) (output : String) (lines : List String) :
    ¬ReportsSkip (output ++ Layout.unlines (lines ++ [last])) := by
  rintro ⟨before, hbefore⟩
  have hend := congrArg (fun cs : List Char => cs.reverse[1]?) hbefore
  rw [Layout.unlines_concat, String.toList_append, String.toList_append, String.toList_append,
    hlast] at hend
  simp at hend
  exact hc hend.symm

theorem suffix_join (directory name : String) :
    name.toList <:+ (Path.join directory name).toList := by
  unfold Path.join
  split
  · exact List.suffix_rfl
  · split
    · exact List.suffix_rfl
    · simp
    · exact ⟨directory.toList ++ ['/'], by simp⟩

/-- What is said after the writing is no warning. -/
theorem not_reportsSkip_success (destination : Destination) (input stem output : String) :
    ¬ReportsSkip
      (output ++ Layout.unlines [" SUCCESS: " ++ destination.typingsPath input stem]) := by
  obtain ⟨front, hfront⟩ := suffix_join (destination.directoryFor input) (stem ++ ".types.ts")
  have hlast : (" SUCCESS: " ++ destination.typingsPath input stem).toList =
      (" SUCCESS: ".toList ++ front ++ stem.toList ++ ".types.t".toList) ++ ['s'] := by
    unfold Destination.typingsPath
    rw [String.toList_append, ← hfront]
    simp
  exact not_reportsSkip_unlines (by decide) hlast output []

theorem not_reportsSkip_declarations (output companionPath : String) (n : Nat) :
    ¬ReportsSkip (output ++ Layout.unlines ["   Companion: " ++ companionPath,
      "   Declarations: " ++ toString n]) := by
  obtain ⟨digits, digit, hdigits⟩ :=
    (List.eq_nil_or_concat (toString n).toList).resolve_left (toList_toString_ne_nil n)
  rw [List.concat_eq_append] at hdigits
  have hmem : digit ∈ (toString n).toList := by
    rw [hdigits]
    exact List.mem_append_right _ List.mem_cons_self
  have hdigit : digit.isDigit := isDigit_of_mem_toString hmem
  have hlast : ("   Declarations: " ++ toString n).toList =
      ("   Declarations: ".toList ++ digits) ++ [digit] := by
    rw [String.toList_append, hdigits, List.append_assoc]
  refine not_reportsSkip_unlines ?_ hlast output ["   Companion: " ++ companionPath]
  rintro rfl
  exact absurd hdigit (by decide)

/-- The writing is come to: the document has its bindings, the directory is there, and the typings
may be written. -/
structure ReachesWriting (input : String) (options : Options) (destination : Destination)
    (t : FileTree) (b : Bindings) (stem : String) (made : FileTree) : Prop where
  bindings_eq : ∃ ms, readBindings t input options = .ok (ms, b)
  stem_eq : destination.stemFor input = .ok stem
  adds : t.AddsDirectories made
  absent : destination.preventOverwrite = true →
    made.at? (destination.typingsPath input stem) = none

/-- How generating modules can end on a tree: the result, the output and the tree after it. -/
inductive GenerateEnds (input : String) (options : Options) (style : ModuleStyle)
    (destination : Destination) (t : FileTree) :
    Except Failure Unit × String × FileTree → Prop where
  /-- Nothing was written. -/
  | failed {failure : Failure} {output : String} {t' : FileTree} (adds : t.AddsDirectories t') :
    GenerateEnds input options style destination t (.error failure, output, t')
  /-- There is a typings module already. -/
  | skipped {output : String} {t' : FileTree} (adds : t.AddsDirectories t')
    (reports : ReportsSkip output) :
    GenerateEnds input options style destination t (.ok (), output, t')
  /-- The typings were written, but not the companion. -/
  | halfway {b : Bindings} {stem output : String} {failure : Failure} {made t' : FileTree}
    (reaches : ReachesWriting input options destination t b stem made)
    (typings : made.writeFile (destination.typingsPath input stem) (typingsText b style) = .ok t') :
    GenerateEnds input options style destination t (.error failure, output, t')
  /-- Both were written, one after the other. -/
  | written {b : Bindings} {stem output : String} {made half t' : FileTree}
    (reaches : ReachesWriting input options destination t b stem made)
    (typings : made.writeFile (destination.typingsPath input stem) (typingsText b style) = .ok half)
    (companion : half.writeFile (destination.companionPath input)
      (companionText b.dialect b.library style) = .ok t')
    (silent : ¬ReportsSkip output) :
    GenerateEnds input options style destination t (.ok (), output, t')

/-- Write both modules, and say so. -/
def writeAndSay (b : Bindings) (style : ModuleStyle) (verbose : Bool)
    (typingsPath companionPath : String) : Running (StateM FileTree) Unit := do
  writeModules FileTree.access b style typingsPath companionPath
  say [" SUCCESS: " ++ typingsPath]
  if verbose then
    say ["   Companion: " ++ companionPath, "   Declarations: " ++ toString b.records.length]

/-- Write both modules, unless the typings are there and must stay. -/
def writeUnlessThere (b : Bindings) (style : ModuleStyle) (destination : Destination)
    (verbose : Bool) (typingsPath companionPath : String) : Running (StateM FileTree) Unit := do
  let skip ←
    if destination.preventOverwrite then perform (FileTree.access.isPresent typingsPath)
    else pure false
  if skip then
    say [" WARNING: " ++ typingsPath ++ " already exists, skipping (--prevent-overwrite)"]
  else
    writeAndSay b style verbose typingsPath companionPath

/-- Generate modules, after the heading. -/
def generateModules (input : String) (options : Options) (style : ModuleStyle)
    (destination : Destination) (verbose : Bool) : Running (StateM FileTree) Unit := do
  let (_, b) ← loadBindings FileTree.access input options
  let directory ← prepareDirectory FileTree.access destination input
  let stem ← orFail (destination.stemFor input)
  writeUnlessThere b style destination verbose (Path.join directory (stem ++ ".types.ts"))
    (Path.join directory companionFile)

/-- The command is its heading and the rest. -/
theorem runGenerate_eq (input : String) (options : Options) (style : ModuleStyle)
    (destination : Destination) (verbose : Bool) :
    runGenerate FileTree.access input options style destination verbose =
      (do
        if verbose then
          say [" tsabi generator", rule, " Input: " ++ input,
            " Dialect: " ++ options.dialect.name, ""]
        generateModules input options style destination verbose) := by
  obtain ⟨directory, name, mayMake, preventOverwrite⟩ := destination
  cases verbose <;> cases preventOverwrite <;> rfl

theorem generateEnds_writeAndSay (verbose : Bool) (output : String)
    (reaches : ReachesWriting input options destination t b stem made) :
    GenerateEnds input options style destination t
      (runOn (writeAndSay b style verbose (destination.typingsPath input stem)
        (destination.companionPath input)) output made) := by
  have hmodules : b.modules style =
    ⟨typingsText b style, companionText b.dialect b.library style⟩ := rfl
  unfold writeAndSay writeModules
  simp only [hmodules, runOn_bind, runOn_writeModule]
  rcases htypings : made.writeFile (destination.typingsPath input stem) (typingsText b style)
    with e | half
  · exact .failed reaches.adds
  · rcases hcompanion : half.writeFile (destination.companionPath input)
      (companionText b.dialect b.library style) with e | t'
    · simp only [hcompanion]
      exact .halfway reaches htypings
    · simp only [hcompanion, runOn_say]
      cases verbose
      · exact .written reaches htypings hcompanion (not_reportsSkip_success _ _ _ _)
      · exact .written reaches htypings hcompanion (not_reportsSkip_declarations _ _ _)

/-- Once the directory is there, the command ends in one of the ways it can. -/
theorem generateEnds_writeUnlessThere (verbose : Bool) (output : String)
    (hbindings : ∃ ms, readBindings t input options = .ok (ms, b))
    (hstem : destination.stemFor input = .ok stem) (hadds : t.AddsDirectories made) :
    GenerateEnds input options style destination t
      (runOn (writeUnlessThere b style destination verbose (destination.typingsPath input stem)
        (destination.companionPath input)) output made) := by
  have haction : (FileTree.access.isPresent (destination.typingsPath input stem)).run made =
    ((made.at? (destination.typingsPath input stem)).isSome, made) := rfl
  unfold writeUnlessThere
  by_cases hprevent : destination.preventOverwrite = true
  · rw [if_pos hprevent, runOn_bind, runOn_perform, haction]
    rcases hat : made.at? (destination.typingsPath input stem) with _ | node
    · exact generateEnds_writeAndSay verbose output ⟨hbindings, hstem, hadds, fun _ => hat⟩
    · refine .skipped hadds ?_
      exact ⟨(output ++ " WARNING: " ++ destination.typingsPath input stem).toList ++ [' '],
        by simp [Layout.unlines]⟩
  · rw [if_neg hprevent, runOn_bind, runOn_pure]
    exact generateEnds_writeAndSay verbose output
      ⟨hbindings, hstem, hadds, fun h => absurd h hprevent⟩

/-- The whole command ends in one of the ways it can. -/
theorem generateEnds_generateModules (input : String) (options : Options) (style : ModuleStyle)
    (destination : Destination) (verbose : Bool) (output : String) (t : FileTree) :
    GenerateEnds input options style destination t
      (runOn (generateModules input options style destination verbose) output t) := by
  unfold generateModules
  rw [runOn_bind, runOn_loadBindings]
  rcases hbindings : readBindings t input options with failure | ⟨ms, b⟩
  · exact .failed (.refl t)
  · dsimp only
    obtain ⟨result, made, hrun, hadds, hdirectory⟩ :=
      runOn_prepareDirectory destination input output t
    rw [runOn_bind, hrun]
    rcases result with failure | directory
    · exact .failed hadds
    · obtain rfl := hdirectory directory rfl
      dsimp only
      rw [runOn_bind, runOn_orFail]
      rcases hstem : destination.stemFor input with failure | stem
      · exact .failed hadds
      · exact generateEnds_writeUnlessThere verbose output ⟨ms, hbindings⟩ hstem hadds

/-- Generating modules ends in one of these ways. -/
theorem generateEnds (input : String) (options : Options) (style : ModuleStyle)
    (destination : Destination) (verbose : Bool) (output : String) (t : FileTree) :
    GenerateEnds input options style destination t
      (runOn (runGenerate FileTree.access input options style destination verbose) output t) := by
  rw [runGenerate_eq]
  cases verbose
  · exact generateEnds_generateModules ..
  · rw [if_pos rfl, runOn_bind, runOn_say]
    exact generateEnds_generateModules ..

/-- A run of the program that is asked to generate modules ends in one of these ways, and the exit
code says whether it succeeded. -/
theorem generateEnds_of_run {arguments : List String} {outcome : Outcome}
    (harguments : Invocation.ofArguments arguments =
      .ok (.generate input options style destination verbose))
    (hrun : (run FileTree.access arguments).run t = (outcome, t')) :
    ∃ result, GenerateEnds input options style destination t (result, outcome.output, t') ∧
      (outcome.exitCode = 0 ↔ result = .ok ()) := by
  have hends := generateEnds input options style destination verbose "" t
  rw [run_of_ok harguments, Invocation.perform] at hrun
  rcases hending : runOn (runGenerate FileTree.access input options style destination verbose) "" t
    with ⟨result, output, after⟩
  rw [hending] at hends hrun
  rcases result with failure | _
  · obtain ⟨rfl, rfl⟩ := Prod.mk.inj hrun
    exact ⟨_, hends, by simp⟩
  · obtain ⟨rfl, rfl⟩ := Prod.mk.inj hrun
    exact ⟨_, hends, by simp⟩

/-! ## What generating leaves -/

/-- The bindings are those of the document, for what was asked for. -/
theorem ReachesWriting.exists_document
    (reaches : ReachesWriting input options destination t b stem made) :
    ∃ document, t.readFile input = .ok document ∧ Bindings.ofText document options = .ok b ∧
      b.dialect = options.dialect ∧ b.library = options.library := by
  obtain ⟨ms, hbindings⟩ := reaches.bindings_eq
  obtain ⟨document, hread, htext⟩ := exists_document_of_readBindings hbindings
  refine ⟨document, hread, htext, ?_⟩
  unfold Bindings.ofText at htext
  rcases hmembers : Member.listOfText document with fault | ms'
  · simp [hmembers, bind, Except.bind] at htext
  · simp only [hmembers, bind, Except.bind] at htext
    obtain ⟨c, -, rfl⟩ := Bindings.ofMembers_eq_ok.1 htext
    exact ⟨rfl, rfl⟩

/-- Both modules are where their paths lead, the companion after the typings. -/
theorem exists_places_of_writeFile {half : FileTree} {path path' text text' : String}
    (h : made.writeFile path text = .ok half) (h' : half.writeFile path' text' = .ok t') :
    ∃ p q, t'.locate path = .ok p ∧ t'.locate path' = .ok q ∧
      p ≠ [] ∧ q ≠ [] ∧
      t' = (made.put p (.file text)).put q (.file text') := by
  obtain ⟨p, hp, hnode, rfl⟩ := FileTree.writeFile_eq_ok.1 h
  obtain ⟨q, hq, hnode', rfl⟩ := FileTree.writeFile_eq_ok.1 h'
  have hfirst := FileTree.KeepsDirectories.put hnode (.file text)
  have hsecond := FileTree.KeepsDirectories.put hnode' (.file text')
  exact ⟨p, q, hsecond.locate (hfirst.locate hp), hsecond.locate hq,
    FileTree.ne_nil_of_node?_ne hnode, FileTree.ne_nil_of_node?_ne hnode', rfl⟩

/-- What is left of a run that wrote both modules: the bindings `b` of the document are in the
companion, and in the typings if these have a place of their own. -/
structure Generated (input : String) (options : Options) (style : ModuleStyle)
    (destination : Destination) (t t' : FileTree) (b : Bindings) (stem : String)
    (typings companion : Place) : Prop where
  bindings_eq : ∃ document,
    t.readFile input = .ok document ∧ Bindings.ofText document options = .ok b
  stem_eq : destination.stemFor input = .ok stem
  locate_typings : t'.locate (destination.typingsPath input stem) = .ok typings
  locate_companion : t'.locate (destination.companionPath input) = .ok companion
  companion_eq : t'.readFile (destination.companionPath input) =
    .ok (companionText options.dialect options.library style)
  typings_eq_iff : t'.readFile (destination.typingsPath input stem) = .ok (typingsText b style) ↔
    typings ≠ companion
  places_eq_iff : '/' ∉ stem.toList → (typings = companion ↔ stem = "common")
  others : ∀ place content, place ≠ typings → place ≠ companion →
    (t'.node? place = some (.file content) ↔ t.node? place = some (.file content))

/-- **A run that succeeds without a warning leaves the companion, and the typings beside it unless
both go to one place.**  There the companion, which is written last, replaces them. -/
theorem generated_of_run {arguments : List String} {outcome : Outcome}
    (harguments : Invocation.ofArguments arguments =
      .ok (.generate input options style destination verbose))
    (hrun : (run FileTree.access arguments).run t = (outcome, t'))
    (hexit : outcome.exitCode = 0) (hskip : ¬ReportsSkip outcome.output) :
    ∃ b stem typings companion,
      Generated input options style destination t t' b stem typings companion := by
  obtain ⟨result, hends, hcode⟩ := generateEnds_of_run harguments hrun
  obtain rfl := hcode.1 hexit
  cases hends with
  | skipped adds reports => exact absurd reports hskip
  | @written b stem _ made half _ reaches htypings hcompanion silent =>
    obtain ⟨document, hread, hbindings, hdialect, hlibrary⟩ := reaches.exists_document
    rw [hdialect, hlibrary] at hcompanion
    obtain ⟨p, q, hp, hq, hp0, hq0, rfl⟩ := exists_places_of_writeFile htypings hcompanion
    have hcompanion_eq := (FileTree.readFile_eq_ok_iff_of_locate hq).2
      (FileTree.node?_put_self hq0 _)
    have htypings_iff := (FileTree.readFile_eq_ok_iff_of_locate hp).trans
      (FileTree.node?_put_put_iff hp0 hq0
        (typingsText_ne_companionText b style style options.dialect options.library) made)
    refine ⟨b, stem, p, q, ⟨document, hread, hbindings⟩, reaches.stem_eq, hp, hq, hcompanion_eq,
      htypings_iff, fun hstem => Destination.places_eq_iff hstem hp hq, ?_⟩
    intro place content hne hne'
    rw [FileTree.node?_put_of_ne hne', FileTree.node?_put_of_ne hne]
    exact reaches.adds.file_iff

/-- Two documents without members. -/
def twoDocuments : FileTree where
  nodes := [(["token.json"], .file "[]"), (["common.json"], .file "[]")]

theorem generated_of_run_token :
    let after := (run FileTree.access ["generate", "token.json"]).run twoDocuments
    after.1.exitCode = 0 ∧ ¬ReportsSkip after.1.output ∧
      ∃ b stem typings companion, Generated "token.json" { dialect := .web3 } {}
        ⟨none, none, false, false⟩ twoDocuments after.2 b stem typings companion := by
  have harguments : Invocation.ofArguments ["generate", "token.json"] =
      .ok (.generate "token.json" { dialect := .web3 } {} ⟨none, none, false, false⟩ false) := by
    decide +kernel
  have hexit :
      ((run FileTree.access ["generate", "token.json"]).run twoDocuments).1.exitCode = 0 := by
    decide +kernel
  have hskip : ¬ReportsSkip
      ((run FileTree.access ["generate", "token.json"]).run twoDocuments).1.output := by
    decide +kernel
  exact ⟨hexit, hskip, generated_of_run harguments rfl hexit hskip⟩

/-- The typings of a document of the name of the companion are lost, though the run succeeds. -/
theorem typings_lost_common :
    let after := (run FileTree.access ["generate", "common.json"]).run twoDocuments
    after.1.exitCode = 0 ∧ ¬ReportsSkip after.1.output ∧
      ∀ b style, after.2.readFile "./common.types.ts" ≠ .ok (typingsText b style) := by
  have hcompanion : ((run FileTree.access ["generate", "common.json"]).run twoDocuments).2.readFile
      "./common.types.ts" = .ok (companionText .web3 none {}) := by
    rfl
  refine ⟨by decide +kernel, by decide +kernel, fun b style h => ?_⟩
  exact typingsText_ne_companionText b style {} .web3 none
    (Except.ok.inj (h.symm.trans hcompanion))

/-- Where overwriting is prevented, nothing was at the place of the typings. -/
theorem ReachesWriting.ne_typings {node : Node}
    (reaches : ReachesWriting input options destination t b stem made)
    (hprevent : destination.preventOverwrite = true) (hnode : made.node? place = some node)
    (htypings : made.locate (destination.typingsPath input stem) = .ok typings) :
    place ≠ typings := by
  rintro rfl
  have habsent := reaches.absent hprevent
  simp [FileTree.at?, htypings, hnode] at habsent

/-- **Where overwriting is prevented, a file changes exactly when both modules are written and it is
at the place of the companion, with another text.**  The typings go to a place that is free. -/
theorem overwrites_iff {arguments : List String} {outcome : Outcome} {content : String}
    (harguments : Invocation.ofArguments arguments =
      .ok (.generate input options style destination verbose))
    (hprevent : destination.preventOverwrite = true)
    (hrun : (run FileTree.access arguments).run t = (outcome, t'))
    (hfile : t.node? place = some (.file content)) :
    t'.node? place ≠ some (.file content) ↔
      outcome.exitCode = 0 ∧ ¬ReportsSkip outcome.output ∧
        t'.locate (destination.companionPath input) = .ok place ∧
        content ≠ companionText options.dialect options.library style := by
  obtain ⟨result, hends, hcode⟩ := generateEnds_of_run harguments hrun
  have hkept {made : FileTree} (adds : t.AddsDirectories made) :
      made.node? place = some (.file content) :=
    adds.file_iff.2 hfile
  rw [hcode]
  cases hends with
  | failed adds => simp [hkept adds]
  | skipped adds reports => simp [hkept adds, reports]
  | halfway reaches htypings =>
    obtain ⟨p, hp, -, rfl⟩ := FileTree.writeFile_eq_ok.1 htypings
    have hmade := hkept reaches.adds
    have hne := reaches.ne_typings hprevent hmade hp
    simp [FileTree.node?_put_of_ne hne, hmade]
  | @written b stem _ made half _ reaches htypings hcompanion silent =>
    obtain ⟨document, -, -, hdialect, hlibrary⟩ := reaches.exists_document
    rw [hdialect, hlibrary] at hcompanion
    obtain ⟨p, hp, -, rfl⟩ := FileTree.writeFile_eq_ok.1 htypings
    obtain ⟨q, hq, hnode, rfl⟩ := FileTree.writeFile_eq_ok.1 hcompanion
    have hmade := hkept reaches.adds
    have hne := reaches.ne_typings hprevent hmade hp
    rw [(FileTree.KeepsDirectories.put hnode _).locate hq]
    by_cases hplace : place = q
    · subst hplace
      rw [FileTree.node?_put_self (FileTree.ne_nil_of_node?_ne hnode)]
      simp [silent, eq_comm]
    · rw [FileTree.node?_put_of_ne hplace, FileTree.node?_put_of_ne hne, hmade]
      simp [Ne.symm hplace]

/-- A companion module written by hand, beside the documents. -/
def handWritten : FileTree := twoDocuments.put ["common.types.ts"] (.file "// mine\n")

theorem overwrites_iff_handWritten :
    let after :=
      (run FileTree.access ["generate", "token.json", "--prevent-overwrite"]).run handWritten
    after.2.node? ["common.types.ts"] ≠ some (.file "// mine\n") ↔
      after.1.exitCode = 0 ∧ ¬ReportsSkip after.1.output ∧
        after.2.locate "./common.types.ts" = .ok ["common.types.ts"] ∧
        "// mine\n" ≠ companionText .web3 none {} := by
  have harguments : Invocation.ofArguments ["generate", "token.json", "--prevent-overwrite"] =
      .ok (.generate "token.json" { dialect := .web3 } {} ⟨none, none, false, true⟩ false) := by
    decide +kernel
  exact overwrites_iff (t := handWritten) harguments rfl rfl (by decide +kernel)

/-- The run succeeds, warns of nothing, and replaces the file. -/
theorem handWritten_overwritten :
    let after :=
      (run FileTree.access ["generate", "token.json", "--prevent-overwrite"]).run handWritten
    handWritten.node? ["common.types.ts"] = some (.file "// mine\n") ∧ after.1.exitCode = 0 ∧
      after.2.node? ["common.types.ts"] ≠ some (.file "// mine\n") := by
  decide +kernel

end AbiTypings.CommandLine
