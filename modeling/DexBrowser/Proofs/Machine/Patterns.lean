import DexBrowser.Machine.Settings
import DexBrowser.Proofs.Files.Presence
import DexBrowser.Proofs.Files.SourcePlaces
import DexBrowser.Proofs.Files.SpelledPaths

/-!
What fits a pattern. Main statements: a name fits `*.jar` just if it ends so, and a path that fits a
pattern has as many names as the pattern.
-/

namespace DexBrowser

open Files Text

namespace Text.Wildcard

theorem mem_endings {cs ending : List Char} : ending ∈ endings cs ↔ ending <:+ cs := by
  induction cs with
  | nil => simp [endings]
  | cons c rest ih => rw [endings, List.mem_cons, ih, List.suffix_cons_iff]

theorem fits_literals (text cs : List Char) :
    fits (text.map .literal) cs = true ↔ cs = text := by
  induction text generalizing cs with
  | nil => simp [fits]
  | cons c text ih => cases cs <;> simp [fits, Token.fits, ih]

theorem fits_star_literals (text cs : List Char) :
    fits (.star :: text.map .literal) cs = true ↔ text <:+ cs := by
  simp [fits, fits_literals, mem_endings]

end Text.Wildcard

theorem matchesWildcard_jar (name : String) :
    matchesWildcard "*.jar" name = true ↔ ".jar".toList <:+ name.toList := by
  have tokens : Wildcard.tokens "*.jar".toList = .star :: ".jar".toList.map .literal := by
    simp [Wildcard.tokens]
  rw [matchesWildcard, tokens, Wildcard.fits_star_literals]

namespace Machine

/-! ## Directory and name of a spelled path -/

theorem noSlash_lastName (cs : List Char) : '/' ∉ lastName cs := by
  intro member
  have fits := List.all_eq_true.mp List.all_takeWhile '/' (List.mem_reverse.mp member)
  simp at fits

theorem directory_name_cases (cs : List Char) :
    ∃ slashes : List Char, (∀ c ∈ slashes, c = '/') ∧
      cs = directoryOf cs ++ slashes ++ lastName cs ∧
      (slashes = [] → ∀ c ∈ directoryOf cs, c = '/') := by
  have whole : cs = (cs.reverse.dropWhile (· ≠ '/')).reverse ++ lastName cs := by
    rw [lastName, ← List.reverse_append, List.takeWhile_append_dropWhile, List.reverse_reverse]
  have slash := List.head?_dropWhile_not (· ≠ '/') cs.reverse
  unfold directoryOf
  generalize cs.reverse.dropWhile (· ≠ '/') = reversed at whole slash
  dsimp only
  split
  case isTrue slashes =>
      refine ⟨[], nofun, by rwa [List.append_nil], fun _ c member => ?_⟩
      exact of_decide_eq_true (List.all_eq_true.mp slashes c (List.mem_reverse.mp member))
  case isFalse other =>
      refine ⟨(reversed.takeWhile (· = '/')).reverse, ?_, ?_, ?_⟩
      · intro c member
        exact of_decide_eq_true
          (List.all_eq_true.mp List.all_takeWhile c (List.mem_reverse.mp member))
      · rwa [← List.reverse_append, List.takeWhile_append_dropWhile]
      · intro none
        -- What is not the last name starts, seen from the end, with a slash.
        cases reversed with
        | nil => simp at other
        | cons c rest =>
            have starts : c = '/' := by simpa using slash
            simp [starts] at none

theorem partsOf_directory_name (cs : List Char) :
    Path.partsOf cs = Path.partsOf (directoryOf cs) ++ Path.partsOf (lastName cs) := by
  obtain ⟨slashes, all, whole, rooted⟩ := directory_name_cases cs
  conv_lhs => rw [whole]
  by_cases none : slashes = []
  case pos =>
      subst none
      have bare := Path.partsOf_slashes_append (rooted rfl) []
      rw [List.append_nil, Path.partsOf_nil] at bare
      rw [List.append_nil, Path.partsOf_slashes_append (rooted rfl), bare, List.nil_append]
  case neg => exact Path.partsOf_append_slashes _ all none _

theorem isPattern_append (front rest : List Char) :
    Wildcard.isPattern (front ++ rest) =
      (Wildcard.isPattern front || Wildcard.isPattern rest) :=
  List.any_append

theorem isPattern_directory_name (cs : List Char) :
    Wildcard.isPattern cs =
      (Wildcard.isPattern (directoryOf cs) || Wildcard.isPattern (lastName cs)) := by
  obtain ⟨slashes, all, whole, -⟩ := directory_name_cases cs
  have plain : Wildcard.isPattern slashes = false :=
    not_isPattern_of_all_slash (List.all_eq_true.mpr fun c member => decide_eq_true (all c member))
  conv_lhs => rw [whole]
  rw [isPattern_append, isPattern_append, plain, Bool.or_false]

theorem partsOf_below (directory name : String) :
    Path.partsOf (below directory name).toList =
      Path.partsOf directory.toList ++ Path.partsOf name.toList := by
  unfold below
  split
  case isTrue closed =>
      rw [Bool.or_eq_true, decide_eq_true_eq, decide_eq_true_eq] at closed
      rw [String.toList_append]
      rcases closed with rfl | closed
      · rfl
      · obtain ⟨front, spelled⟩ := List.getLast?_eq_some_iff.mp closed
        rw [spelled, Path.partsOf_append_slash, Path.partsOf_nil, List.append_assoc,
          List.singleton_append, Path.partsOf_append_slash, List.append_nil]
  case isFalse =>
      have slash : "/".toList = ['/'] := rfl
      rw [String.toList_append, String.toList_append, slash, List.append_assoc,
        List.singleton_append, Path.partsOf_append_slash]

/-! ## Depth of what fits -/

def depth (cs : List Char) : Nat :=
    (Path.partsOf cs).length

theorem depth_directory_name (cs : List Char) :
    depth cs = depth (directoryOf cs) + depth (lastName cs) := by
  rw [depth, partsOf_directory_name, List.length_append, depth, depth]

theorem depth_below (directory name : String) :
    depth (below directory name).toList = depth directory.toList + depth name.toList := by
  rw [depth, partsOf_below, List.length_append, depth, depth]

theorem depth_part {name : String} (part : isPart name = true) : depth name.toList = 1 := by
  rw [depth, Path.partsOf_part part, List.length_singleton]

theorem depth_pattern {cs : List Char} (pattern : Wildcard.isPattern cs = true)
    (noSlash : '/' ∉ cs) : depth cs = 1 := by
  have part : isPart (String.ofList cs) = true := by
    refine ClassName.isPart_ofList ?_ ?_ noSlash
    · rintro rfl
      exact absurd pattern (by decide)
    · rintro rfl
      exact absurd pattern (by decide)
  rw [← String.toList_ofList (l := cs), depth_part part]

section Fitting

variable {tree : Tree} (named : tree.Named) {directoriesOnly : Bool}

include named

theorem depth_of_mem_fittingNames {directory pattern name : String}
    (member : name ∈ fittingNames tree directory pattern directoriesOnly) :
    depth name.toList = 1 := by
  have found := (List.mem_filter.mp member).1
  unfold namesAt at found
  split at found
  case h_1 location _ => exact depth_part (named location name (List.mem_filter.mp found).1)
  case h_2 => contradiction

/-- What fits a pattern has as many names as the pattern: each stands for one of its names. -/
theorem depth_of_mem_expandPattern {cs : List Char} {text : String}
    (member : text ∈ expandPattern tree directoriesOnly cs) : depth text.toList = depth cs := by
  -- The induction is on the length, as the directory of a pattern is shorter.
  induction size : cs.length using Nat.strongRecOn generalizing cs text directoriesOnly
  rename_i size ih
  subst size
  rw [expandPattern] at member
  split at member
  case isTrue plain =>
      obtain ⟨-, only⟩ := List.mem_ite_nil_right.mp member
      rw [List.mem_singleton.mp only, String.toList_ofList]
  case isFalse pattern =>
      split at member
      case isTrue here =>
          have nothing := List.isEmpty_iff.mp here
          have last : Wildcard.isPattern (lastName cs) = true := by
            have none : Wildcard.isPattern [] = false := rfl
            rw [isPattern_directory_name cs, nothing, none] at pattern
            simpa using pattern
          rw [depth_of_mem_fittingNames named member, depth_directory_name, nothing,
            depth_pattern last (noSlash_lastName cs)]
          rfl
      case isFalse =>
          obtain ⟨directory, isDirectory, name, isName, rfl⟩ := by
            simpa only [List.mem_flatMap, List.mem_map] using member
          have above : depth directory.toList = depth (directoryOf cs) := by
            split at isDirectory
            case isTrue pattern =>
                exact ih _ (length_directoryOf_lt pattern) isDirectory rfl
            case isFalse =>
                rw [List.mem_singleton.mp isDirectory, String.toList_ofList]
          have last : depth name.toList = depth (lastName cs) := by
            split at isName
            case isTrue pattern =>
                rw [depth_of_mem_fittingNames named isName,
                  depth_pattern pattern (noSlash_lastName cs)]
            case isFalse =>
                split at isName
                case isTrue nameless =>
                    obtain ⟨-, only⟩ := List.mem_ite_nil_right.mp isName
                    rw [List.mem_singleton.mp only, List.isEmpty_iff.mp nameless]
                    rfl
                case isFalse =>
                    obtain ⟨-, only⟩ := List.mem_ite_nil_right.mp isName
                    rw [List.mem_singleton.mp only, String.toList_ofList]
          rw [depth_below, depth_directory_name cs, above, last]

end Fitting

end Machine

end DexBrowser
