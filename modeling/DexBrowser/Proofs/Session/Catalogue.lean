import DexBrowser.Validation.Lax
import DexBrowser.Proofs.Session.Answers

/-!
The index of a session and what its classes and packages say of themselves. Main statement: while
managed objects answer what the artifacts say, the index of every current input is consistent: names
are in normal form and distinct, searches go by them, and the packages take the classes apart.
-/

namespace DexBrowser.Session

open Managed Session.Action

/-! ## Consistency -/

/-- A handle that tells the name of a class of an input, and is equal to that class and to no
other. -/
structure Loaded.IsClass (loaded : Loaded) (seat : Nat) (world : World) (name : String)
    (h : Handle) : Prop where
  listed : name ∈ loaded.classes.map (·.1)
  fullName : (world.run seat (h.fullName : Action String)).1 = .ok name
  same : ∀ entry ∈ loaded.classes,
    (world.same h entry.2).1 = .ok (decide (name = entry.1)) ∧
      (world.same entry.2 h).1 = .ok (decide (entry.1 = name))

/-- A class that tells its package and its name, of which its full name is made up. -/
structure Handle.TellsName (h : Handle) (seat : Nat) (world : World)
    (whole package last : String) : Prop where
  fullName : (world.run seat (h.fullName : Action String)).1 = .ok whole
  packageName : (world.run seat (h.packageName : Action String)).1 = .ok package
  name : (world.run seat (h.name : Action String)).1 = .ok last
  join : whole = package ++ "." ++ last
  normal : ClassName.normalize whole = whole
  package : ClassName.package whole = package
  simple : ClassName.simple whole = last

/-- What holds of the index of an input, by what can be asked of the session. -/
structure Loaded.Consistent (loaded : Loaded) (seat : Nat) (world : World) : Prop where
  allClasses : (world.run seat allClasses).1 = .ok (loaded.classes.map (·.2))
  allPackages : (world.run seat allPackages).1 = .ok (loaded.packages.map (·.2))
  classNames : (loaded.classes.map (·.1)).Nodup
  packageNames : (loaded.packages.map (·.1)).Nodup
  named : ∀ entry ∈ loaded.classes, ∃ package name,
    entry.2.TellsName seat world entry.1 package name ∧ package ∈ loaded.packages.map (·.1)
  packageNamed : ∀ entry ∈ loaded.packages,
    (world.run seat (entry.2.fullName : Action String)).1 = .ok entry.1
  hasClass : ∀ spelling, (world.run seat (hasClass spelling)).1 =
    .ok (decide (ClassName.normalize spelling ∈ loaded.classes.map (·.1)))
  getClass : ∀ entry ∈ loaded.classes, ∀ spelling, ClassName.normalize spelling = entry.1 →
    (world.run seat (getClass spelling)).1 = .ok entry.2
  noClass : ∀ spelling, ClassName.normalize spelling ∉ loaded.classes.map (·.1) →
    (world.run seat (Session.getClass spelling)).1 = .error (.noSuchClass spelling)
  hasPackage : ∀ name, (world.run seat (hasPackage name)).1 =
    .ok (decide (name ∈ loaded.packages.map (·.1)))
  getPackage : ∀ entry ∈ loaded.packages,
    (world.run seat (getPackage entry.1)).1 = .ok entry.2
  noPackage : ∀ name, name ∉ loaded.packages.map (·.1) →
    (world.run seat (Session.getPackage name)).1 = .error (.noSuchPackage name)
  members : ∀ entry ∈ loaded.packages,
    world.Gives seat (entry.2.classes : Action (List Handle)) fun members after =>
      List.Forall₂ (loaded.IsClass seat after)
        ((loaded.classes.map (·.1)).filter (ClassName.package · = entry.1)) members
  counts : world.Gives seat Query.packages fun rows _ =>
    rows.map (·.fullName) = loaded.packages.map (·.1) ∧
      (rows.map (·.classes)).sum = loaded.classes.length
  declaring : ∀ entry ∈ loaded.classes,
    world.Gives seat (entry.2.methods : Action (List Handle)) fun methods after =>
      ∀ m ∈ methods, after.Gives seat (m.declaringClass : Action Handle) fun c later =>
        loaded.IsClass seat later entry.1 c

namespace World.Presents

variable {world : World} {seat : Nat} {loaded : Loaded} {artifact : Artifact} {image : Image}

/-! ## Where classes and packages are -/

theorem classAt (presents : world.Presents seat loaded artifact image)
    {entry : String × Handle} (member : entry ∈ loaded.classes) :
    ∃ i c, image.classes[i]? = some c ∧ c.fullName = entry.1 ∧
      entry.2.Wraps ⟨seat, loaded.load⟩ .classNode (.classNode i) := by
  obtain ⟨i, named, -, wraps⟩ := presents.presents.classes.place member
  rw [List.getElem?_map] at named
  obtain ⟨c, found, same⟩ := Option.map_eq_some_iff.mp named
  exact ⟨i, c, found, same, wraps⟩

theorem packageAt (presents : world.Presents seat loaded artifact image)
    {entry : String × Handle} (member : entry ∈ loaded.packages) :
    ∃ i places, image.packages[i]? = some (entry.1, places) ∧
      entry.2.Wraps ⟨seat, loaded.load⟩ .package (.package i) := by
  obtain ⟨i, named, -, wraps⟩ := presents.presents.packages.place member
  rw [List.getElem?_map] at named
  obtain ⟨⟨_, places⟩, found, rfl⟩ := Option.map_eq_some_iff.mp named
  exact ⟨i, places, found, wraps⟩

/-- A handle of a class of the image is one of the class that the index has under its name. -/
theorem isClass (presents : world.Presents seat loaded artifact image) {after : World}
    (live : after.Live ⟨seat, loaded.load⟩ image) {i : Nat} {c : Image.ClassImage}
    (found : image.classes[i]? = some c) {h : Handle}
    (wraps : h.Wraps ⟨seat, loaded.load⟩ .classNode (.classNode i)) :
    loaded.IsClass seat after c.fullName h where
  listed := by
    rw [presents.presents.classes.names]
    exact List.mem_map_of_mem (List.mem_of_getElem? found)
  fullName := live.answers (Live.keeps_fullName wraps (tells_class found rfl))
  same entry member := by
    obtain ⟨j, d, atOther, named, other⟩ := presents.classAt member
    rw [← named]
    exact ⟨live.same found atOther wraps other, live.same atOther found other wraps⟩

/-! ## Names and searches -/

theorem tellsName (presents : world.Presents seat loaded artifact image)
    {entry : String × Handle} (member : entry ∈ loaded.classes) :
    ∃ package name, entry.2.TellsName seat world entry.1 package name ∧
      package ∈ loaded.packages.map (·.1) := by
  obtain ⟨i, c, found, named, wraps⟩ := presents.classAt member
  have isClass := List.mem_of_getElem? found
  have proper := Image.proper_build presents.presents.built isClass
  rw [← named]
  refine ⟨c.package, c.named.name, ⟨?_, ?_, ?_, rfl, proper.normalize, proper.package_fullName,
    proper.simple_fullName⟩, ?_⟩
  · exact presents.live.answers (Live.keeps_fullName wraps (tells_class found rfl))
  · exact presents.live.answers (Live.keeps_packageName wraps found)
  · exact presents.live.answers (Live.keeps_className wraps found)
  · rw [presents.presents.packages.names]
    have partition := Image.partition_build presents.presents.built
    exact (partition.named _).mpr (List.mem_map_of_mem isClass)

theorem nodup_classes (presents : world.Presents seat loaded artifact image) :
    (loaded.classes.map (·.1)).Nodup := by
  rw [presents.presents.classes.names]
  exact Image.nodup_build presents.presents.built

theorem nodup_packages (presents : world.Presents seat loaded artifact image) :
    (loaded.packages.map (·.1)).Nodup := by
  rw [presents.presents.packages.names]
  exact (Image.partition_build presents.presents.built).distinct

/-! ## Members of packages -/

theorem known_places (presents : world.Presents seat loaded artifact image)
    {p : String × List Nat} (isPackage : p ∈ image.packages) :
    ∀ place ∈ p.2, ∃ c, image.classes[place]? = some c := by
  intro place inside
  rw [(Image.partition_build presents.presents.built).places p isPackage, Image.mem_placesOf,
    List.getElem?_map] at inside
  obtain ⟨c, found, -⟩ := Option.map_eq_some_iff.mp inside
  exact ⟨c, found⟩

theorem members (presents : world.Presents seat loaded artifact image)
    {entry : String × Handle} (member : entry ∈ loaded.packages) :
    world.Gives seat (entry.2.classes : Action (List Handle)) fun members after =>
      List.Forall₂ (loaded.IsClass seat after)
        ((loaded.classes.map (·.1)).filter (ClassName.package · = entry.1)) members := by
  obtain ⟨i, places, found, wraps⟩ := presents.packageAt member
  have isPackage := List.mem_of_getElem? found
  have partition := Image.partition_build presents.presents.built
  have asked := presents.live.gives
    (Live.keeps_classes wraps found (presents.known_places isPackage))
  refine asked.mono fun members after ⟨all, live⟩ => ?_
  rw [partition.places _ isPackage] at all
  have named : (loaded.classes.map (·.1)).filter (ClassName.package · = entry.1) =
      (image.classes.filter (·.package = entry.1)).map Image.ClassImage.fullName := by
    rw [presents.presents.classes.names, List.filter_map]
    refine congrArg _ (List.filter_congr fun c isClass => ?_)
    have proper := Image.proper_build presents.presents.built isClass
    exact congrArg (decide <| · = entry.1) proper.package_fullName
  rw [named, List.forall₂_map_left_iff]
  refine (forall₂_comp (Image.forall₂_placesOf image.classes _ entry.1) all).imp ?_
  rintro c h ⟨place, atClass, wrapsClass⟩
  exact presents.isClass live atClass wrapsClass

theorem counts (presents : world.Presents seat loaded artifact image) :
    world.Gives seat Query.packages fun rows _ =>
      rows.map (·.fullName) = loaded.packages.map (·.1) ∧
        (rows.map (·.classes)).sum = loaded.classes.length := by
  have partition := Image.partition_build presents.presents.built
  let size (name : String) : Nat :=
    (Image.placesOf (image.classes.map Image.ClassImage.package) name).length
  let row (h : Handle) : Action Query.PackageRow := do
    return ⟨← h.fullName, (← h.classes).length⟩
  have each : ∀ entry ∈ loaded.packages, (row entry.2).Keeps
      (Session.Live ⟨seat, loaded.load⟩ image fun _ => True) (· = ⟨entry.1, size entry.1⟩)
      noFault := by
    intro entry member
    obtain ⟨i, places, found, wraps⟩ := presents.packageAt member
    have isPackage := List.mem_of_getElem? found
    refine keeps_bind (Live.keeps_fullName wraps (tells_package found rfl)) ?_
    rintro _ rfl
    refine keeps_bind (Live.keeps_classes wraps found (presents.known_places isPackage)) ?_
    intro members all
    have length := all.length_eq
    rw [partition.places _ isPackage] at length
    exact keeps_pure (by rw [← length])
  have run : world.run seat Query.packages =
      world.run seat (loaded.packages.mapM fun entry => row entry.2) := by
    have handles : (loaded.packages.map (·.2)).mapM row =
        loaded.packages.mapM fun entry => row entry.2 := List.mapM_map
    rw [← handles]
    exact presents.run_bind fun _ free current => run_allPackages free current
  rw [World.Gives, run]
  refine (presents.live.gives (keeps_mapM_each each)).mono fun rows after ⟨all, _⟩ => ?_
  have told := eq_map_of_forall₂ all
  have sizes : loaded.packages.map (fun entry => size entry.1) =
      image.packages.map (·.2.length) := by
    have names := presents.presents.packages.names
    change loaded.packages.map (size ∘ (·.1)) = _
    rw [← List.map_map, names, List.map_map]
    refine List.map_congr_left fun p isPackage => ?_
    exact congrArg List.length (partition.places p isPackage).symm
  subst told
  simp only [List.map_map, Function.comp_def, sizes, partition.count, true_and]
  rw [presents.presents.classes.length, List.length_map, List.length_map]

theorem declaring (presents : world.Presents seat loaded artifact image)
    {entry : String × Handle} (member : entry ∈ loaded.classes) :
    world.Gives seat (entry.2.methods : Action (List Handle)) fun methods after =>
      ∀ m ∈ methods, after.Gives seat (m.declaringClass : Action Handle) fun c later =>
        loaded.IsClass seat later entry.1 c := by
  obtain ⟨i, c, found, named, wraps⟩ := presents.classAt member
  refine (presents.live.gives (Live.keeps_methods wraps found)).mono ?_
  intro methods after ⟨all, live⟩ m isMethod
  obtain ⟨j, bound, wrapsMethod⟩ := exists_of_mem_right all isMethod
  have foundMethod := List.getElem?_eq_getElem (List.mem_range.mp bound)
  have declared := live.gives (Live.keeps_declaringClass wrapsMethod found foundMethod)
  refine declared.mono fun declaring later ⟨wrapsClass, liveLater⟩ => ?_
  rw [← named]
  exact presents.isClass liveLater found wrapsClass

/-! ## The index as a whole -/

theorem consistent (presents : world.Presents seat loaded artifact image) :
    loaded.Consistent seat world where
  allClasses := by
    rw [presents.looks fun _ free current => run_allClasses free current]
  allPackages := by
    rw [presents.looks fun _ free current => run_allPackages free current]
  classNames := presents.nodup_classes
  packageNames := presents.nodup_packages
  named _ member := presents.tellsName member
  packageNamed entry member := by
    obtain ⟨i, places, found, wraps⟩ := presents.packageAt member
    exact presents.live.answers (Live.keeps_fullName wraps (tells_package found rfl))
  hasClass spelling := by
    rw [presents.looks fun _ free current => run_hasClass free current spelling,
      Bool.eq_iff_iff.mpr (lookup_isSome_iff.trans decide_eq_true_iff.symm)]
  getClass entry member spelling same := by
    rw [presents.looks fun _ free current => run_getClass free current spelling, same,
      lookup_of_mem presents.nodup_classes member]
  noClass spelling absent := by
    rw [presents.looks fun _ free current => run_getClass free current spelling,
      Option.not_isSome_iff_eq_none.mp (absent <| lookup_isSome_iff.mp ·)]
  hasPackage name := by
    rw [presents.looks fun _ free current => run_hasPackage free current name,
      Bool.eq_iff_iff.mpr (lookup_isSome_iff.trans decide_eq_true_iff.symm)]
  getPackage entry member := by
    rw [presents.looks fun _ free current => run_getPackage free current entry.1,
      lookup_of_mem presents.nodup_packages member]
  noPackage name absent := by
    rw [presents.looks fun _ free current => run_getPackage free current name,
      Option.not_isSome_iff_eq_none.mp (absent <| lookup_isSome_iff.mp ·)]
  members _ member := presents.members member
  counts := presents.counts
  declaring _ member := presents.declaring member

end World.Presents

/-- After any history without revisions, the index of every current input is consistent. -/
theorem current_index_consistent {deeds : List Deed} (plain : ∀ deed ∈ deeds, deed.Plain)
    {seat : Nat} {loaded : Loaded}
    (current : (Scene.after deeds).world.current seat = some loaded) :
    loaded.Consistent seat (Scene.after deeds).world := by
  obtain ⟨artifact, image, presents⟩ := Scene.presents_current plain current
  exact presents.consistent

def spelledClasses : Files.Entry :=
    .file ("\x7b\"classes\": [\x7b\"fullname\": \"a/b/C\", " ++
      "\"methods\": [\x7b\"name\": \"go\"\x7d]\x7d, " ++
      "\x7b\"fullname\": \"x\"\x7d, \x7b\"fullname\": \"a.b/Longer\"\x7d]\x7d").toUTF8

def spelledLoaded : List Deed :=
    [.openSession, .replaceFiles (({} : Files.Tree).put ["a.json"] spelledClasses),
      .load 0 (.memory .lax id) (.path (Path.ofString "a.json")) (some { deobfuscate := true }) []]

theorem spelled_index_consistent :
    let world := (Scene.after spelledLoaded).world
    ∃ loaded, world.current 0 = some loaded ∧
      loaded.classes.map (·.1) = ["a.b.C0001C", "defpackage.C0003x", "a.b.Longer"] ∧
        loaded.packages.map (·.1) = ["a.b", "defpackage"] ∧ loaded.Consistent 0 world := by
  intro world
  have named : (world.current 0).any (fun loaded =>
      loaded.classes.map (·.1) == ["a.b.C0001C", "defpackage.C0003x", "a.b.Longer"] &&
        loaded.packages.map (·.1) == ["a.b", "defpackage"]) = true := by
    decide +kernel
  obtain ⟨loaded, current, names⟩ := (Option.any_eq_true _ _).mp named
  rw [Bool.and_eq_true, beq_iff_eq, beq_iff_eq] at names
  have plain : ∀ deed ∈ spelledLoaded, deed.Plain := by simp [spelledLoaded, Deed.Plain]
  exact ⟨loaded, current, names.1, names.2, current_index_consistent plain current⟩

end DexBrowser.Session
