import DexBrowser.Proofs.Session.Attribute

/-!
What saving through handles does to a session. Main statements: saving a class or a package keeps
what the use of the load and the writing of the files concerned keep.
-/

namespace DexBrowser.Session

open Managed Session.Action

/-- What holds of a workspace holds still after code was written to a path, or was refused there. -/
def Writable (holds : Workspace → Prop) (path : Path) : Prop :=
    ∀ workspace code, holds workspace →
      holds { workspace with files := (workspace.files.writeSource path code).1 }

section Saving

variable {h : Handle} {host : Host} {holds : Workspace → Prop}

theorem run_tryWrite_after (path : Path) (code : String) (workspace : Workspace) :
    ((tryWrite path code).run workspace).2 =
      { workspace with files := (workspace.files.writeSource path code).1 } := by
  simp only [tryWrite, run_ofRun, writeSource]
  generalize workspace.files.writeSource path code = written
  obtain ⟨files, outcome⟩ := written
  cases outcome with
  | ok _ => rfl
  | error fault => cases fault <;> rfl

theorem respects_tryWrite {path : Path} (writable : Writable holds path) (code : String) :
    (tryWrite path code).Respects holds anyFault := by
  intro before held
  refine ⟨?_, ?_, ends_any _⟩
  · rw [run_tryWrite_after]
    exact writable before code held
  · rw [run_tryWrite_after]

theorem Usable.respects_writeClass (use : Usable (World.originOf h) host holds anyFault)
    {path : Path} (writable : Writable holds path) :
    (h.writeClass path).Respects holds anyFault := by
  refine use.keeps_shared (keeps_bind use.respects_code fun code _ => ?_)
  refine keeps_bind (respects_tryWrite writable code) fun failure _ => ?_
  dsimp only
  split
  · refine keeps_bind use.respects_fullName fun fullName _ => ?_
    exact keeps_bind (use.respects_log _ _ _) fun _ _ => respects_pure _
  · exact respects_pure _

theorem Usable.respects_saveClass (use : Usable (World.originOf h) host holds anyFault)
    {path : Path} (writable : Writable holds path) :
    (h.saveClass path : Action Bool).Respects holds anyFault := by
  refine keeps_bind (use.respects_writeClass writable) fun failure _ => ?_
  split
  · exact respects_pure _
  · refine keeps_bind use.respects_fullName fun fullName _ => ?_
    exact keeps_bind (use.respects_log _ _ _) fun _ _ => respects_pure _

/-- Where a class of a given full name is saved below a directory. -/
def memberPath (directory : Path) (fullName : String) : Path :=
    directory.join (Path.ofString (ClassName.sourceFile fullName))

theorem Usable.respects_saveMember (use : Usable (World.originOf h) host holds anyFault)
    {directory : Path} {good : String → Prop}
    (named : (h.fullName : Action String).Keeps holds good anyFault)
    (writable : ∀ fullName, good fullName → Writable holds (memberPath directory fullName)) :
    (Handle.saveMember directory h).Respects holds anyFault := by
  refine keeps_bind named fun fullName fine => ?_
  refine keeps_bind (use.respects_saveClass (writable fullName fine)) fun saved _ => ?_
  exact respects_pure _

theorem Usable.respects_saveMembers (use : Usable (World.originOf h) host holds anyFault)
    {directory : Path} (members : (h.classes : Action (List Handle)).Keeps holds
      (fun hs => ∀ c ∈ hs, (Handle.saveMember directory c).Respects holds anyFault) anyFault) :
    (h.saveMembers directory).Respects holds anyFault :=
  use.keeps_shared <| keeps_bind members fun _ each => (keeps_mapM each).respects

theorem Usable.respects_savePackage (use : Usable (World.originOf h) host holds anyFault)
    {directory : Path} (members : (h.classes : Action (List Handle)).Keeps holds
      (fun hs => ∀ c ∈ hs, (Handle.saveMember directory c).Respects holds anyFault) anyFault) :
    (h.savePackage directory : Action Bool).Respects holds anyFault := by
  refine keeps_bind (use.respects_saveMembers members) fun outcomes _ => ?_
  dsimp only
  split
  · exact respects_pure _
  · refine keeps_bind use.respects_fullName fun fullName _ => ?_
    exact keeps_bind (use.respects_log _ _ _) fun _ _ => respects_pure _

theorem Usable.respects_savePackage_of_writable
    (use : Usable (World.originOf h) host holds anyFault)
    (writable : ∀ path, Writable holds path) (directory : Path) :
    (h.savePackage directory : Action Bool).Respects holds anyFault := by
  have members : (h.classes : Action (List Handle)).Keeps holds _ anyFault :=
    use.keeps_askEach use.keeps_made .classNode (by decide)
  refine use.respects_savePackage (members.mono ?_ ?_)
  · intro hs own c member
    rw [← (own c member).origin] at use
    exact use.respects_saveMember use.respects_fullName fun fullName _ => writable _
  · exact fun _ any => any

theorem Usable.respects_save (use : Usable (World.originOf h) host holds anyFault)
    (writable : ∀ path, Writable holds path) (argument : Files.PathArgument) :
    (h.save argument : Action Bool).Respects holds anyFault := by
  refine keeps_bind (respects_ofExcept argument.toPath) fun path _ => ?_
  split
  · exact use.respects_savePackage_of_writable writable path
  · exact use.respects_saveClass (writable path)

theorem save_of_toPath {h : Handle} (package : h.kind = .package) {argument : Files.PathArgument}
    {directory : Path} (path : argument.toPath = .ok directory) :
    (h.save argument : Action Bool) = h.savePackage directory := by
  rw [Handle.save, path]
  change (pure directory >>= fun path : Path =>
    if h.kind = .package then h.savePackage path else h.saveClass path : Action Bool) = _
  rw [pure_bind, if_pos package]

end Saving

end DexBrowser.Session
