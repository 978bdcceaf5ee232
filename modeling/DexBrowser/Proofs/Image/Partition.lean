import DexBrowser.Proofs.Image.Naming
import Mathlib.Algebra.Ring.Nat
import Mathlib.Data.List.Forall2
import Mathlib.Data.List.Induction

/-!
The packages of an image. Main statement: they have different names, and each of them has the
places of exactly the classes that name it, in the order of the classes.
-/

namespace DexBrowser.Image

def placesOf (names : List String) (package : String) : List Nat :=
    (List.range names.length).filter fun index => names[index]? = some package

/-- Packages that take classes apart by the package that each of them names. -/
structure Partition (names : List String) (packages : List (String × List Nat)) : Prop where
  distinct : (packages.map (·.1)).Nodup
  named : ∀ name, name ∈ packages.map (·.1) ↔ name ∈ names
  places : ∀ p ∈ packages, p.2 = placesOf names p.1
  count : (packages.map (·.2.length)).sum = names.length

/-! ## Places -/

theorem placesOf_concat (names : List String) (last package : String) :
    placesOf (names ++ [last]) package =
      placesOf names package ++ if last = package then [names.length] else [] := by
  have before : ∀ index ∈ List.range names.length,
      decide ((names ++ [last])[index]? = some package) =
        decide (names[index]? = some package) := by
    intro index small
    rw [List.getElem?_append_left (List.mem_range.mp small)]
  rw [placesOf, List.length_append, List.length_singleton, List.range_succ, List.filter_append,
    List.filter_congr before, ← placesOf]
  congr 1
  simp [List.filter_cons]

theorem placesOf_eq_nil {names : List String} {package : String} (absent : package ∉ names) :
    placesOf names package = [] := by
  refine List.filter_eq_nil_iff.mpr fun index _ found => ?_
  exact absent (List.mem_of_getElem? (by simpa using found))

theorem mem_placesOf {names : List String} {package : String} {index : Nat} :
    index ∈ placesOf names package ↔ names[index]? = some package := by
  rw [placesOf, List.mem_filter, List.mem_range, decide_eq_true_iff, and_iff_right_iff_imp]
  intro found
  exact (List.getElem?_eq_some_iff.mp found).1

theorem forall₂_placesOf (xs : List α) (packageOf : α → String) (package : String) :
    List.Forall₂ (fun x place => xs[place]? = some x) (xs.filter (packageOf · = package))
      (placesOf (xs.map packageOf) package) := by
  induction xs using List.reverseRecOn with
  | nil => exact .nil
  | append_singleton front x ih =>
      rw [List.map_append, List.map_singleton, placesOf_concat, List.filter_append,
        List.length_map]
      refine List.rel_append (ih.imp fun y place found => ?_) ?_
      · obtain ⟨bound, -⟩ := List.getElem?_eq_some_iff.mp found
        rw [List.getElem?_append_left bound, found]
      · by_cases inside : packageOf x = package
        · simp [inside]
        · simp [inside]

/-! ## One class more -/

theorem names_addToPackage (package : String) (index : Nat) (packages : List (String × List Nat)) :
    (addToPackage package index packages).map (·.1) =
      packages.map (·.1) ++ if package ∈ packages.map (·.1) then [] else [package] := by
  induction packages with
  | nil => rfl
  | cons p rest ih =>
      unfold addToPackage
      by_cases same : p.1 = package
      · simp [same]
      · have other : package ≠ p.1 := Ne.symm same
        rw [if_neg same, List.map_cons, ih, List.map_cons]
        simp only [List.mem_cons, other, false_or, List.cons_append]

theorem count_addToPackage (package : String) (index : Nat) (packages : List (String × List Nat)) :
    ((addToPackage package index packages).map (·.2.length)).sum =
      (packages.map (·.2.length)).sum + 1 := by
  induction packages with
  | nil => rfl
  | cons p rest ih =>
      unfold addToPackage
      split
      · simp only [List.map_cons, List.sum_cons, List.length_append, List.length_singleton]
        omega
      · simp only [List.map_cons, List.sum_cons, ih]
        omega

theorem mem_addToPackage {package : String} {index : Nat} {packages : List (String × List Nat)}
    (distinct : (packages.map (·.1)).Nodup) {p : String × List Nat}
    (member : p ∈ addToPackage package index packages) :
    p.1 ≠ package ∧ p ∈ packages ∨
      (∃ places, (package, places) ∈ packages ∧ p = (package, places ++ [index])) ∨
        package ∉ packages.map (·.1) ∧ p = (package, [index]) := by
  induction packages with
  | nil => exact .inr (.inr ⟨by simp, List.mem_singleton.mp member⟩)
  | cons q rest ih =>
      obtain ⟨once, distinctRest⟩ := List.nodup_cons.mp distinct
      unfold addToPackage at member
      split at member
      case isTrue same =>
          rcases List.mem_cons.mp member with rfl | member
          · refine .inr (.inl ⟨q.2, ?_, by rw [same]⟩)
            rw [← same]
            exact List.mem_cons_self
          · refine .inl ⟨fun again => once ?_, List.mem_cons_of_mem _ member⟩
            exact List.mem_map.mpr ⟨p, member, again.trans same.symm⟩
      case isFalse other =>
          rcases List.mem_cons.mp member with rfl | member
          · exact .inl ⟨other, List.mem_cons_self⟩
          · rcases ih distinctRest member with old | ⟨places, old, rfl⟩ | ⟨absent, rfl⟩
            · exact .inl ⟨old.1, List.mem_cons_of_mem _ old.2⟩
            · exact .inr (.inl ⟨places, List.mem_cons_of_mem _ old, rfl⟩)
            · refine .inr (.inr ⟨?_, rfl⟩)
              rw [List.map_cons, List.mem_cons, not_or]
              exact ⟨Ne.symm other, absent⟩

theorem Partition.concat {names : List String} {packages : List (String × List Nat)}
    (partition : Partition names packages) (package : String) :
    Partition (names ++ [package]) (addToPackage package names.length packages) where
  distinct := by
    rw [names_addToPackage]
    split
    case isTrue => simpa using partition.distinct
    case isFalse absent =>
        refine List.nodup_append.mpr ⟨partition.distinct, by simp, ?_⟩
        rintro name member _ isNew rfl
        exact absent (List.mem_singleton.mp isNew ▸ member)
  named name := by
    rw [names_addToPackage, List.mem_append, List.mem_append, partition.named, List.mem_singleton]
    split
    case isTrue known =>
        rw [partition.named] at known
        constructor
        · exact fun listed => .inl (listed.resolve_right List.not_mem_nil)
        · rintro (listed | rfl)
          · exact .inl listed
          · exact .inl known
    case isFalse => rw [List.mem_singleton]
  places p member := by
    rw [placesOf_concat]
    rcases mem_addToPackage partition.distinct member with
      ⟨other, old⟩ | ⟨places, old, rfl⟩ | ⟨absent, rfl⟩
    · rw [if_neg (Ne.symm other), List.append_nil, partition.places p old]
    · rw [if_pos rfl, ← partition.places _ old]
    · rw [partition.named] at absent
      rw [if_pos rfl, placesOf_eq_nil absent, List.nil_append]
  count := by
    rw [count_addToPackage, partition.count, List.length_append, List.length_singleton]

theorem partition_packagesFrom {front rest : List String} {packages : List (String × List Nat)}
    (partition : Partition front packages) :
    Partition (front ++ rest) (packagesFrom front.length packages rest) := by
  induction rest generalizing front packages with
  | nil => rwa [List.append_nil]
  | cons package rest ih =>
      have next := ih (partition.concat package)
      rwa [List.append_assoc, List.length_append] at next

theorem partition_packages (names : List String) : Partition names (packagesFrom 0 [] names) := by
  have nothing : Partition [] [] := ⟨List.nodup_nil, by simp, by simp, rfl⟩
  exact partition_packagesFrom nothing

/-! ## Images that are built -/

section Build

variable {artifact : Artifact} {options : LoadOptions} {sourceName : String} {image : Image}

theorem partition_build (built : Image.build artifact options sourceName = .ok image) :
    Partition (image.classes.map ClassImage.package) image.packages := by
  obtain ⟨-, rfl⟩ := build_eq_ok_iff.mp built
  rw [ofNamed, ofNamed_classes_package]
  exact partition_packages _

theorem nodup_build (built : Image.build artifact options sourceName = .ok image) :
    (image.classes.map ClassImage.fullName).Nodup := by
  obtain ⟨distinct, rfl⟩ := build_eq_ok_iff.mp built
  rwa [ofNamed, ofNamed_classes_fullName]

theorem proper_build (built : Image.build artifact options sourceName = .ok image)
    {c : ClassImage} (member : c ∈ image.classes) : c.named.Proper := by
  obtain ⟨-, rfl⟩ := build_eq_ok_iff.mp built
  obtain ⟨named, isNamed, rfl⟩ := List.mem_map.mp member
  rw [named_renderClass]
  exact proper_nameClasses isNamed

end Build

end DexBrowser.Image
