import DexBrowser.Validation.Lax
import DexBrowser.Proofs.Image.Renaming
import DexBrowser.Proofs.Session.FreshLoad

/-!
Loading with names replaced. Main statement: an artifact that can be loaded as it is can be loaded
with names replaced exactly if no two of its classes clash, and two methods of a class whose names
differ have one name then exactly if they clash.
-/

namespace DexBrowser.Session

open Image Managed Session.Action

variable {validator : Validator}

def Handle.methodNames (h : Handle) : Action (List String) :=
    h.eachMethod fun method => method.name

theorem Live.keeps_methodNames {origin : LoadId} {image : Image} {files : Files.Tree → Prop}
    {h : Handle} {i : Nat} {c : ClassImage} (wraps : h.Wraps origin .classNode (.classNode i))
    (found : image.classes[i]? = some c) :
    h.methodNames.Keeps (Live origin image files) (· = c.named.methods.map NamedMethod.name)
      noFault := by
  have named := map_range_getD (c.named.methods.map NamedMethod.name) "" id
  rw [List.map_id, List.length_map] at named
  rw [← named]
  refine keeps_eachMethod wraps found fun j method made foundMethod wrapsMethod => ?_
  rw [List.getD, List.getElem?_map, foundMethod]
  exact keeps_methodName wrapsMethod found foundMethod

/-- With names replaced, an artifact can be loaded exactly if no two of its classes clash. -/
theorem Loadable.renamed_iff {files : Files.Tree} {path : Path} {options unchanged : LoadOptions}
    {artifact : Artifact} {image : Image} (off : unchanged.deobfuscate = false)
    (loadable : Loadable validator files path unchanged artifact image) :
    (∃ renamed, Loadable validator files path options artifact renamed) ↔
      ¬ ClassesClash options artifact.classes := by
  rw [← nodup_renamed_iff off (build_eq_ok_iff.mp loadable.built).1]
  constructor
  · rintro ⟨renamed, other⟩
    exact (build_eq_ok_iff.mp other.built).1
  · intro distinct
    exact ⟨_, loadable.isFile, loadable.suffix, loadable.read,
      build_eq_ok_iff.mpr ⟨distinct, rfl⟩⟩

/-- Of the names of a class's methods, two are equal where those in the artifact differ exactly if
the methods clash. -/
structure NamedApart (options : LoadOptions) (entries : List ClassEntry) (i : Nat)
    (entry : ClassEntry) (names : List String) : Prop where
  length : names.length = entry.methods.length
  equal_iff : ∀ {j k : Nat} {first second : MethodEntry}, j < k →
    entry.methods[j]? = some first → entry.methods[k]? = some second →
      first.name ≠ second.name →
        (names[j]? = names[k]? ↔ Clash options methodNames (methodNumber options entries i entry j)
          (methodNumber options entries i entry k) first.name.toList second.name.toList)

theorem namedApart_nameClass (options : LoadOptions) (entries : List ClassEntry) (i : Nat)
    (entry : ClassEntry) : NamedApart options entries i entry
      ((nameClass options (replacedNames options (entries.take i)) entry).1.methods.map
        NamedMethod.name) where
  length := by rw [List.length_map, nameClass_methods, length_nameMethods]
  equal_iff := renamedMethods_eq_iff

section Renamed

variable {deeds : List Deed} {seat : Nat} {argument : Files.PathArgument}
  {given givenOn : Option LoadOptions} {changes changesOn : List (String × Json)}
  {options : LoadOptions}

theorem World.Presents.namedApart {world : World} {loaded : Loaded} {artifact : Artifact}
    {image : Image} (presents : world.Presents seat loaded artifact image) {i : Nat}
    {entry : ClassEntry} (found : artifact.classes[i]? = some entry) :
    ∃ listed, loaded.classes[i]? = some listed ∧
      world.Gives seat listed.2.methodNames fun names _ =>
        NamedApart loaded.options artifact.classes i entry names := by
  have named := nameClasses_getElem? loaded.options 0 artifact.classes i
  rw [found, Option.map_some, Nat.zero_add] at named
  have all := presents.forall₂_classes
  obtain ⟨bound, isNamed⟩ := List.getElem?_eq_some_iff.mp named
  have bound' : i < loaded.classes.length := all.length_eq ▸ bound
  obtain ⟨-, place, atPlace, wraps⟩ := List.Forall₂.get all bound bound'
  refine ⟨_, List.getElem?_eq_getElem bound', ?_⟩
  refine (presents.live.gives (Live.keeps_methodNames wraps atPlace)).mono fun names _ told => ?_
  rw [told.1, named_renderClass]
  have apart := namedApart_nameClass loaded.options artifact.classes i entry
  rw [← isNamed] at apart
  exact apart

/-- After any history without revisions, an artifact that can be loaded as it is can be loaded with
names replaced exactly if no two of its classes clash; two methods of one class whose names differ
have one name in that load exactly if they clash. -/
theorem renamed_load_distinct_iff (plain : ∀ deed ∈ deeds, deed.Plain)
    (isOptions : LoadOptions.resolve validator given changes = .ok options)
    (off : options.deobfuscate = false)
    (turnedOn : LoadOptions.resolve validator givenOn changesOn =
      .ok { options with deobfuscate := true })
    (ended : ((Scene.after deeds).world.run seat
      (load (.memory validator id) argument given changes)).1 = .ok ()) :
    let world := (Scene.after deeds).world
    let result := world.run seat (load (.memory validator id) argument givenOn changesOn)
    let on : LoadOptions := { options with deobfuscate := true }
    ∃ path artifact, argument.toPath = .ok path ∧
      readArtifact validator world.files path = .ok artifact ∧
      (result.1 = .ok () ↔ ¬ ClassesClash on artifact.classes) ∧
        (result.1 = .ok () → ∃ loaded, result.2.current seat = some loaded ∧
          loaded.classes.length = artifact.classes.length ∧
            ∀ (i : Nat) (entry : ClassEntry), artifact.classes[i]? = some entry →
              ∃ listed, loaded.classes[i]? = some listed ∧
                result.2.Gives seat listed.2.methodNames fun names _ =>
                  NamedApart on artifact.classes i entry names) := by
  intro world result on
  have opened : seat < world.sessions.length := by
    refine Nat.lt_of_not_le fun beyond => ?_
    rw [World.run_of_none (List.getElem?_eq_none beyond)] at ended
    contradiction
  obtain ⟨path, _, artifact, image, isPath, isOptions', loadable⟩ :=
    (Scene.load_ends_ok_iff plain opened).mp ended
  obtain rfl := Except.ok.inj (isOptions.symm.trans isOptions')
  refine ⟨path, artifact, isPath, loadable.read, ?_, fun endedOn => ?_⟩
  · rw [← loadable.renamed_iff off]
    refine (Scene.load_ends_ok_iff plain opened).trans ⟨?_, ?_⟩
    · rintro ⟨path', options', artifact', renamed, isPath', turnedOn', loadable'⟩
      obtain rfl := Except.ok.inj (isPath.symm.trans isPath')
      obtain rfl := Except.ok.inj (turnedOn.symm.trans turnedOn')
      obtain rfl := Except.ok.inj (loadable.read.symm.trans loadable'.read)
      exact ⟨renamed, loadable'⟩
    · rintro ⟨renamed, loadable'⟩
      exact ⟨path, _, artifact, renamed, isPath, turnedOn, loadable'⟩
  · obtain ⟨loaded, artifact', renamed, current, presents, isPath', turnedOn', readable⟩ :=
      Scene.load_presents plain endedOn
    obtain rfl := Except.ok.inj (isPath.symm.trans isPath')
    obtain rfl := Except.ok.inj (loadable.read.symm.trans readable)
    have isOn : loaded.options = on := Except.ok.inj (turnedOn'.symm.trans turnedOn)
    refine ⟨loaded, current, ?_, fun i entry found => isOn ▸ presents.namedApart found⟩
    rw [← presents.forall₂_classes.length_eq, length_nameClasses]

end Renamed

def clashingClasses : Files.Entry :=
    .file ("\x7b\"classes\": [\x7b\"fullname\": \"a.b\"\x7d, " ++
      "\x7b\"fullname\": \"a.C0001b\"\x7d]\x7d").toUTF8

def clashingStored : List Deed :=
    [.openSession, .replaceFiles (({} : Files.Tree).put ["a.json"] clashingClasses)]

/-- The artifact can be loaded as it is, and renaming makes its classes one. -/
theorem short_class_refused :
    let world := (Scene.after clashingStored).world
    let argument : Files.PathArgument := .path (Path.ofString "a.json")
    let on : LoadOptions := { deobfuscate := true }
    let refused := (world.run 0 (load (.memory .lax id) argument (some on) [])).1
    (world.run 0 (load (.memory .lax id) argument (some {}) [])).1 = .ok () ∧
      refused = .error (.load (.duplicateClass "a.C0001b")) ∧
        ∃ path artifact, argument.toPath = .ok path ∧
          readArtifact .lax world.files path = .ok artifact ∧
            ClassesClash on artifact.classes := by
  intro world argument on refused
  have plain : ∀ deed ∈ clashingStored, deed.Plain := by simp [clashingStored, Deed.Plain]
  obtain ⟨_, ended⟩ := faultOf?_eq_none.mp (show faultOf? (world.run 0
    (load (.memory .lax id) argument (some {}) [])).1 = none by decide +kernel)
  have duplicate : refused = .error (.load (.duplicateClass "a.C0001b")) :=
    faultOf?_eq_some.mp (by decide +kernel)
  obtain ⟨path, artifact, isPath, readable, loads, -⟩ := renamed_load_distinct_iff plain
    (LoadOptions.resolve_some_nil .lax {}) rfl (LoadOptions.resolve_some_nil .lax on) ended
  have clash : ClassesClash on artifact.classes := Classical.byContradiction fun none =>
    nomatch duplicate.symm.trans (loads.mpr none)
  exact ⟨ended, duplicate, path, artifact, isPath, readable, clash⟩

end DexBrowser.Session
