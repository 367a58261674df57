import AbiTypings.CommandLine.Command
import AbiTypings.Proofs.FileTrees

/-!
# Runs of commands on file trees

On a file tree, a command is a function: from the output so far and the tree to its result, the
output after it and the tree after it (`runOn`).  A command is run by running its steps one after
the other, up to the first that fails (`runOn_bind`); what was printed and written before a failure
stays.

* **Programs** — `run_of_ok`: what the program does for arguments that ask for something.
* **Documents** — `readBindings`: what a command that reads a document gets from it.  Reading prints
  nothing and changes nothing (`runOn_loadBindings`).
-/

namespace AbiTypings.CommandLine

variable {α β : Type} {output output' : String} {t t' : FileTree}

/-! ## Running -/

/-- What a command does on a file tree, after some output: its result, the output after it, and the
tree after it. -/
def runOn (x : Running (StateM FileTree) α) (output : String) (t : FileTree) :
    Except Failure α × String × FileTree :=
  let ((result, output), t) := (x.run.run output).run t
  (result, output, t)

theorem runOn_pure (a : α) (output : String) (t : FileTree) :
    runOn (pure a) output t = (.ok a, output, t) := rfl

theorem runOn_bind (x : Running (StateM FileTree) α) (f : α → Running (StateM FileTree) β)
    (output : String) (t : FileTree) :
    runOn (x >>= f) output t =
      match runOn x output t with
      | (.ok a, output, t) => runOn (f a) output t
      | (.error failure, output, t) => (.error failure, output, t) := by
  have hrun : (x >>= f).run = x.run >>= ExceptT.bindCont f := rfl
  unfold runOn
  rw [hrun]
  simp only [StateT.run_bind]
  rcases ((x.run.run output).run t) with ⟨⟨_ | a, output⟩, t⟩
  · rfl
  · rfl

theorem runOn_say (lines : List String) (output : String) (t : FileTree) :
    runOn (say lines) output t = (.ok (), output ++ Layout.unlines lines, t) := rfl

theorem runOn_perform (action : StateM FileTree α) (output : String) (t : FileTree) :
    runOn (perform action) output t = (.ok (action.run t).1, output, (action.run t).2) := rfl

theorem runOn_orFail (result : Except Failure α) (output : String) (t : FileTree) :
    runOn (orFail result) output t = (result, output, t) := by
  cases result <;> rfl

/-- An operation on files is made, and its failure is reported with a message before it. -/
theorem runOn_attempt (message : String) (action : StateM FileTree (Except FileError α))
    (output : String) (t : FileTree) :
    runOn (attempt message action) output t =
      ((action.run t).1.mapError fun e => { message, cause := some e }, output,
        (action.run t).2) := by
  unfold attempt
  rw [runOn_bind, runOn_perform]
  dsimp only
  rcases (action.run t).1 with e | a <;> rfl

theorem runOn_writeModule (path text output : String) (t : FileTree) :
    runOn (writeModule FileTree.access path text) output t =
      match t.writeFile path text with
      | .ok t' => (.ok (), output, t')
      | .error e =>
        (.error { message := "failed to write " ++ path, cause := some e }, output, t) := by
  have haction : (FileTree.access.writeFile path text).run t = _ :=
    FileTree.run_change (·.writeFile path text) t
  unfold writeModule
  rw [runOn_attempt, haction]
  rcases t.writeFile path text with e | t' <;> rfl

/-- A run of the program that is asked for something. -/
theorem run_of_ok {arguments : List String} {invocation : Invocation}
    (h : Invocation.ofArguments arguments = .ok invocation) (t : FileTree) :
    (run FileTree.access arguments).run t =
      match runOn (invocation.perform FileTree.access) "" t with
      | (.ok (), output, t) => ({ exitCode := 0, output }, t)
      | (.error failure, output, t) =>
        ({ exitCode := 1, output, report := failure.report }, t) := by
  unfold run runOn
  rw [h]
  simp only [StateT.run_bind]
  rcases ((invocation.perform FileTree.access).run.run "").run t with ⟨⟨_ | _, output⟩, t⟩
  · rfl
  · rfl

/-! ## Documents -/

/-- The members of the document at a path. -/
def readMembers (t : FileTree) (input : String) : Except Failure (List Member) :=
  match t.readFile input with
  | .ok document => (Member.listOfText document).mapError .ofFault
  | .error e => .error { message := "failed to read " ++ input, cause := some e }

/-- The members of the document at a path, and their bindings. -/
def readBindings (t : FileTree) (input : String) (options : Options) :
    Except Failure (List Member × Bindings) :=
  match readMembers t input with
  | .ok ms => ((Bindings.ofMembers options ms).mapError Failure.ofFault).map fun b => (ms, b)
  | .error failure => .error failure

theorem runOn_load (t : FileTree) (input output : String) :
    runOn (load FileTree.access input) output t = (readMembers t input, output, t) := by
  have haction : (FileTree.access.readFile input).run t = (t.readFile input, t) := rfl
  unfold load readMembers
  rw [runOn_bind, runOn_attempt, haction]
  rcases t.readFile input with e | document
  · rfl
  · exact runOn_orFail _ _ _

/-- Loading bindings changes no file and says nothing. -/
theorem runOn_loadBindings (t : FileTree) (input : String) (options : Options) (output : String) :
    runOn (loadBindings FileTree.access input options) output t =
      (readBindings t input options, output, t) := by
  unfold loadBindings readBindings
  rw [runOn_bind, runOn_load]
  rcases readMembers t input with failure | ms
  · rfl
  · dsimp only
    rw [runOn_bind, runOn_orFail]
    rcases Bindings.ofMembers options ms with fault | b <;> rfl

/-- The bindings that are read are those of the document. -/
theorem exists_document_of_readBindings {input : String} {options : Options} {ms : List Member}
    {b : Bindings} (h : readBindings t input options = .ok (ms, b)) :
    ∃ document, t.readFile input = .ok document ∧ Bindings.ofText document options = .ok b := by
  unfold readBindings readMembers at h
  rcases hread : t.readFile input with e | document
  · rw [hread] at h
    cases h
  · refine ⟨document, rfl, ?_⟩
    rw [hread] at h
    dsimp only at h
    unfold Bindings.ofText
    rcases hmembers : Member.listOfText document with fault | found
    · rw [hmembers] at h
      cases h
    · rw [hmembers] at h
      replace h : ((Bindings.ofMembers options found).mapError Failure.ofFault).map
          (fun b => (found, b)) = .ok (ms, b) := h
      rcases hbindings : Bindings.ofMembers options found with fault | bound
      · rw [hbindings] at h
        cases h
      · rw [hbindings] at h
        cases h
        exact hbindings

end AbiTypings.CommandLine
