import DexBrowser.Proofs.Session.Opening
import DexBrowser.Proofs.Session.Telling

/-!
The index of a load that shows an image. Main statement: indexing ends well, and the index has a
handle for each class and each package of the image, in order, under the name that the image has
for it.
-/

namespace DexBrowser.Session

open Managed Session.Action

/-! ## Lists of handles by name -/

/-- Handles of the objects of one sort, in order, under the names of these. -/
structure Listed (origin : LoadId) (kind : Kind) (id : Nat → ObjectId) (names : List String)
    (entries : List (String × Handle)) : Prop where
  names : entries.map (·.1) = names
  wraps : ∀ (i : Nat) (entry : String × Handle), entries[i]? = some entry →
    entry.2.Wraps origin kind (id i)

section Listed

variable {origin : LoadId} {kind : Kind} {id : Nat → ObjectId} {names : List String}
  {entries : List (String × Handle)}

theorem Listed.length (listed : Listed origin kind id names entries) :
    entries.length = names.length := by
  rw [← listed.names, List.length_map]

theorem Listed.concat (listed : Listed origin kind id names entries) {h : Handle}
    (wraps : h.Wraps origin kind (id names.length)) (name : String) :
    Listed origin kind id (names ++ [name]) (entries ++ [(name, h)]) where
  names := by rw [List.map_append, listed.names]; rfl
  wraps i entry found := by
    rw [List.getElem?_append] at found
    split at found
    case isTrue => exact listed.wraps i entry found
    case isFalse beyond =>
        obtain ⟨bound, rfl⟩ := List.getElem?_eq_some_iff.mp found
        have newest : i = names.length := by
          rw [List.length_singleton] at bound
          rw [← listed.length]
          omega
        subst newest
        simpa using wraps

theorem Listed.owned (listed : Listed origin kind id names entries) {owner : LoadId}
    (owned : Owned owner .memory entries) : Listed owner kind id names entries where
  names := listed.names
  wraps i entry found :=
    { owned entry (List.mem_of_getElem? found) with
      kind := (listed.wraps i entry found).kind
      target := (listed.wraps i entry found).target }

theorem Listed.found (listed : Listed origin kind id names entries) {i : Nat} {name : String}
    (atName : names[i]? = some name) :
    ∃ h, entries[i]? = some (name, h) ∧ h.Wraps origin kind (id i) := by
  rw [← listed.names, List.getElem?_map] at atName
  obtain ⟨⟨_, h⟩, found, rfl⟩ := Option.map_eq_some_iff.mp atName
  exact ⟨h, found, listed.wraps i _ found⟩

theorem Listed.place (listed : Listed origin kind id names entries) {name : String} {h : Handle}
    (member : (name, h) ∈ entries) :
    ∃ i, names[i]? = some name ∧ entries[i]? = some (name, h) ∧ h.Wraps origin kind (id i) := by
  obtain ⟨i, found⟩ := List.getElem?_of_mem member
  refine ⟨i, ?_, found, listed.wraps i _ found⟩
  rw [← listed.names, List.getElem?_map, found, Option.map_some]

theorem Listed.forall₂ {xs : List α} {nameOf : α → String}
    (listed : Listed origin kind id (xs.map nameOf) entries) :
    List.Forall₂ (fun x (entry : String × Handle) => entry.1 = nameOf x ∧
      ∃ i, xs[i]? = some x ∧ entry.2.Wraps origin kind (id i)) xs entries := by
  refine List.forall₂_of_length_eq_of_get (by rw [listed.length, List.length_map]) ?_
  intro i bound bound'
  have atItem := List.getElem?_eq_getElem bound
  have atEntry := List.getElem?_eq_getElem bound'
  have named := congrArg (·[i]?) listed.names
  simp only [List.getElem?_map, atItem, atEntry, Option.map_some, Option.some_inj] at named
  exact ⟨named, i, atItem, listed.wraps i _ atEntry⟩

end Listed

theorem lookup_of_mem {entries : List (String × Handle)} (distinct : (entries.map (·.1)).Nodup)
    {name : String} {h : Handle} (member : (name, h) ∈ entries) :
    entries.lookup name = some h := by
  obtain ⟨front, back, rfl⟩ := List.append_of_mem member
  refine List.lookup_eq_some_iff.mpr ⟨front, back, rfl, fun entry before => ?_⟩
  rw [List.map_append, List.map_cons] at distinct
  have apart := (List.nodup_append.mp distinct).2.2 entry.1 (List.mem_map_of_mem before) name
    List.mem_cons_self
  simpa using Ne.symm apart

theorem lookup_isSome_iff {entries : List (String × Handle)} {name : String} :
    (entries.lookup name).isSome ↔ name ∈ entries.map (·.1) := by
  rw [← not_iff_not, Bool.not_eq_true, Option.isSome_eq_false_iff, Option.isNone_iff_eq_none,
    List.lookup_eq_none_iff]
  constructor
  · intro other listed
    obtain ⟨entry, member, rfl⟩ := List.mem_map.mp listed
    simpa using other entry member
  · intro absent entry member
    refine bne_iff_ne.mpr ?_
    rintro rfl
    exact absent (List.mem_map_of_mem member)

theorem addFirst_new {named : List (String × Handle)} {name : String}
    (absent : name ∉ named.map (·.1)) (h : Handle) :
    addFirst named name h = named ++ [(name, h)] :=
  if_neg fun known => absent (lookup_isSome_iff.mp known)

theorem Listed.addNext {origin : LoadId} {kind : Kind} {id : Nat → ObjectId} {names : List String}
    {entries : List (String × Handle)} {n : Nat}
    (listed : Listed origin kind id (names.take n) entries)
    (distinct : names.Nodup) (bound : n < names.length) {h : Handle}
    (wraps : h.Wraps origin kind (id n)) :
    Listed origin kind id (names.take (n + 1)) (addFirst entries names[n] h) := by
  have absent : names[n] ∉ entries.map (·.1) := by
    rw [listed.names]
    intro before
    refine List.disjoint_take_drop distinct (Nat.le_refl _) before ?_
    rw [List.drop_eq_getElem_cons bound]
    exact List.mem_cons_self
  have count : (names.take n).length = n := by
    rw [List.length_take]
    omega
  rw [addFirst_new absent, List.take_succ_eq_append_getElem bound]
  exact listed.concat (by rwa [count]) _

/-! ## Indexing -/

namespace Live

variable {origin : LoadId} {image : Image} {files : Files.Tree → Prop}

theorem keeps_indexObjects {kind : Kind} {id : Nat → ObjectId} {names : List String}
    {member : String} (distinct : names.Nodup)
    (tells : Tells image .decompiler member
      (.list (((List.range names.length).map id).map .object)))
    (other : member ≠ Load.closeMember)
    (each : ∀ (i : Nat) (name : String), names[i]? = some name →
      Wrappable image kind (id i) ∧ Tells image (id i) "getFullName" (.text name)) :
    (indexObjects origin.load kind member).Keeps (Live origin image files)
      (Listed origin kind id names) noFault := by
  refine keeps_bind (keeps_call tells other false) ?_
  rintro _ rfl
  let targets : List Value := ((List.range names.length).map id).map .object
  have items : Ends (· = targets) noFault (itemsOf (.list targets)) := by
    rw [itemsOf_listed]
    exact rfl
  refine keeps_bind (keeps_ofExcept items) ?_
  rintro _ rfl
  have start : Listed origin kind id (names.take ([] : List Value).length) [] :=
    ⟨rfl, fun _ _ found => by simp at found⟩
  -- There are handles for the first names, as many as there were objects so far.
  suffices folded : (targets.foldlM (fun named target => do
      let handle ← Handle.make origin.load kind target
      return addFirst named (← handle.fullName) handle) [] : Action (List (String × Handle))).Keeps
        (Live origin image files) (Listed origin kind id (names.take targets.length)) noFault by
    simpa [targets] using folded
  refine keeps_foldlM_along (fun front => Listed origin kind id (names.take front.length))
    (fun front x back parts entries listed => ?_) start
  have place : targets[front.length]? = some x := by simp [parts]
  obtain ⟨i, isPlace, rfl⟩ : ∃ i, (List.range names.length)[front.length]? = some i ∧
      .object (id i) = x := by
    simpa [targets, List.getElem?_map, Option.map_eq_some_iff] using place
  obtain ⟨bound, rfl⟩ := List.getElem?_eq_some_iff.mp isPlace
  rw [List.length_range] at bound
  rw [List.getElem_range]
  have found : names[front.length]? = some names[front.length] := List.getElem?_eq_getElem bound
  obtain ⟨wrappable, named⟩ := each front.length _ found
  refine keeps_bind (keeps_make wrappable) fun h wraps => ?_
  refine keeps_bind (keeps_fullName wraps named) ?_
  rintro _ rfl
  refine keeps_pure ?_
  rw [List.length_append, List.length_singleton]
  exact listed.addNext distinct bound wraps

theorem keeps_index (classes : (image.classes.map Image.ClassImage.fullName).Nodup)
    (packages : (image.packages.map (·.1)).Nodup) :
    (index origin.load).Keeps (Live origin image files)
      (fun found =>
        Listed origin .classNode .classNode (image.classes.map Image.ClassImage.fullName) found.1 ∧
          Listed origin .package .package (image.packages.map (·.1)) found.2) noFault := by
  have indexClasses : (indexObjects origin.load .classNode "getClasses").Keeps
      (Live origin image files) (Listed origin .classNode .classNode
        (image.classes.map Image.ClassImage.fullName)) noFault := by
    refine keeps_indexObjects classes (tells_decompiler (by rw [List.length_map]; rfl))
      (by decide) fun i name found => ?_
    rw [List.getElem?_map] at found
    obtain ⟨c, atClass, rfl⟩ := Option.map_eq_some_iff.mp found
    exact ⟨wrappable_class atClass, tells_class atClass rfl⟩
  have indexPackages : (indexObjects origin.load .package "getPackages").Keeps
      (Live origin image files) (Listed origin .package .package (image.packages.map (·.1)))
        noFault := by
    refine keeps_indexObjects packages (tells_decompiler (by rw [List.length_map]; rfl))
      (by decide) fun i name found => ?_
    rw [List.getElem?_map] at found
    obtain ⟨p, atPackage, rfl⟩ := Option.map_eq_some_iff.mp found
    exact ⟨wrappable_package atPackage, tells_package atPackage rfl⟩
  refine keeps_bind indexClasses fun found listedClasses => ?_
  refine keeps_bind indexPackages fun others listedPackages => ?_
  exact keeps_bind (keeps_log _ _ _) fun _ _ => keeps_pure ⟨listedClasses, listedPackages⟩

end Live

end DexBrowser.Session
