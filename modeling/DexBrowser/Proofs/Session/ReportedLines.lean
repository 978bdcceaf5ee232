import DexBrowser.Validation.Lax
import DexBrowser.Proofs.Image.OneLine
import DexBrowser.Proofs.Image.Partition
import DexBrowser.Proofs.Session.FreshLoad

/-!
The lines that classes and methods tell of themselves. Main statement: the line that a class or a
method of a loaded artifact tells counts lines of source, so that it is where the declaration stands
in the code exactly if no line of source before it holds a line break.
-/

namespace DexBrowser.Session

open Image Managed Session.Action Text

variable {validator : Validator}

/-- What a class tells of its code: the text, its own line and the lines of its methods. -/
structure Outline where
  code : String
  line : Int
  methods : List Int

def Handle.outline (h : Handle) : Action Outline := do
    let code ← h.code
    let line ← h.line
    let methods ← h.eachMethod fun method => method.line
    return ⟨code, line, methods⟩

/-- The lines that are told are those of the declarations in the source. -/
structure Outline.Reports (options : LoadOptions) (sourceName : String) (c : NamedClass)
    (o : Outline) : Prop where
  line : Declared (shownLines options sourceName c) o.code.toList
    (shownLine options (headerLine c)) o.line.toNat
  methods : List.Forall₂ (fun method line => Declared (shownLines options sourceName c)
    o.code.toList (shownLine options (declarationLine c.name method)) line.toNat)
      c.methods o.methods
  increasing : (o.line :: o.methods).Pairwise (· < ·)
  oneLine : OneLineClass c.entry → OneLine sourceName →
    (pieces '\n' o.code.toList)[o.line.toNat - 1]? = some (shownLine options (headerLine c)) ∧
      List.Forall₂ (fun method line => (pieces '\n' o.code.toList)[line.toNat - 1]? =
        some (shownLine options (declarationLine c.name method))) c.methods o.methods

/-! ## What is told -/

theorem Live.keeps_outline {origin : LoadId} {image : Image} {files : Files.Tree → Prop}
    {h : Handle} {i : Nat} {c : ClassImage} (wraps : h.Wraps origin .classNode (.classNode i))
    (found : image.classes[i]? = some c) :
    h.outline.Keeps (Live origin image files)
      (· = ⟨c.code, toldLine c.line,
        (List.range c.named.methods.length).map fun j => toldLine (c.methodLines.getD j 0)⟩)
      noFault := by
  refine keeps_bind (keeps_code wraps found) ?_
  rintro _ rfl
  refine keeps_bind (keeps_line wraps (tells_class found rfl)) ?_
  rintro _ rfl
  refine keeps_bind (keeps_eachMethod wraps found fun j method made foundMethod wrapsMethod =>
    keeps_line wrapsMethod (tells_method found foundMethod rfl)) ?_
  rintro _ rfl
  exact keeps_pure rfl

theorem reports_renderClass {c : NamedClass} (unready : c.entry.code = none)
    (oneLine : OneLineClass c.entry → OneLineNamed c) (options : LoadOptions)
    (sourceName : String) :
    let shown := renderClass options sourceName c
    Outline.Reports options sourceName c ⟨shown.code, toldLine shown.line,
      (List.range c.methods.length).map fun j => toldLine (shown.methodLines.getD j 0)⟩ := by
  intro shown
  have line : Declared _ shown.code.toList _ shown.line := declared_line unready
  have methods : List.Forall₂ (fun _ _ => Declared _ shown.code.toList _ _) _ shown.methodLines :=
    declared_methodLines unready
  have increasing : (shown.line :: shown.methodLines).Pairwise (· < ·) := pairwise_lines unready
  have positive : 0 < shown.line := by
    have header : shown.line = (headLines sourceName c).length := by
      simp only [shown, renderClass, unready]
    rw [header]
    exact Nat.succ_pos _
  have first : toldLine shown.line = shown.line := if_neg (by omega)
  have others : (List.range c.methods.length).map
      (fun j => toldLine (shown.methodLines.getD j 0)) =
        shown.methodLines.map fun (line : Nat) => (line : Int) := by
    rw [methods.length_eq, map_range_getD]
    refine List.map_congr_left fun line member => ?_
    have after := (List.pairwise_cons.mp increasing).1 line member
    exact if_neg (by omega)
  rw [first, others]
  refine ⟨line, ?_, ?_, fun one source => ?_⟩
  · exact List.forall₂_map_right_iff.mpr methods
  · rw [← List.map_cons (f := fun (line : Nat) => (line : Int)), List.pairwise_map]
    exact increasing.imp Int.ofNat_lt.mpr
  · have uncut := not_mem_shownLines (oneLine one) source options
    refine ⟨line.reads fun earlier member => uncut earlier (List.mem_of_mem_take member), ?_⟩
    refine List.forall₂_map_right_iff.mpr (methods.imp fun method line declared => ?_)
    exact declared.reads fun earlier member => uncut earlier (List.mem_of_mem_take member)

/-! ## In a world -/

/-- After any history without revisions, a class of an input that is loaded, if it has no ready-made
code, and its methods tell the lines of their declarations in the source. -/
theorem reported_lines_declared {deeds : List Deed} (plain : ∀ deed ∈ deeds, deed.Plain)
    {seat : Nat} {argument : Files.PathArgument} {given : Option LoadOptions}
    {changes : List (String × Json)}
    (ended : ((Scene.after deeds).world.run seat
      (load (.memory validator id) argument given changes)).1 = .ok ()) :
    let after :=
        ((Scene.after deeds).world.run seat (load (.memory validator id) argument given changes)).2
    ∃ loaded artifact, after.current seat = some loaded ∧ argument.toPath = .ok loaded.path ∧
      LoadOptions.resolve validator given changes = .ok loaded.options ∧
        readArtifact validator (Scene.after deeds).world.files loaded.path = .ok artifact ∧
          List.Forall₂ (fun c entry => c.entry.code = none →
              after.Gives seat entry.2.outline fun o _ =>
                o.Reports loaded.options loaded.path.name c)
            (nameClasses loaded.options 0 artifact.classes) loaded.classes := by
  intro after
  obtain ⟨loaded, artifact, image, current, presents, isPath, isOptions, readable⟩ :=
    Scene.load_presents plain ended
  refine ⟨loaded, artifact, current, isPath, isOptions, readable, ?_⟩
  have named := (List.forall₂_and_left ..).mpr
    ⟨fun c (member : c ∈ nameClasses loaded.options 0 artifact.classes) => member,
      presents.forall₂_classes⟩
  refine named.imp fun c entry ⟨member, _, i, found, wraps⟩ unready => ?_
  have asked := presents.live.gives (Live.keeps_outline wraps found)
  refine asked.mono fun o later ⟨same, _⟩ => ?_
  rw [same, named_renderClass]
  exact reports_renderClass unready (oneLine_nameClasses member) _ _

def brokenBody : Files.Entry :=
    .file ("\x7b\"classes\": [\x7b\"fullname\": \"a.A\", \"methods\": [" ++
      "\x7b\"name\": \"one\", \"body\": [\"int i;\\nint j;\"]\x7d, \x7b\"name\": \"two\"\x7d]" ++
      "\x7d]\x7d").toUTF8

def brokenStored : List Deed :=
    [.openSession, .replaceFiles (({} : Files.Tree).put ["a.json"] brokenBody)]

/-- Both lines are those of the source, and the second method tells line 9 where its declaration
stands on line 10 of the code. -/
theorem broken_body_misreported :
    let load := load (.memory .lax id) (.path (Path.ofString "a.json")) none []
    let after := ((Scene.after brokenStored).world.run 0 load).2
    ∃ (loaded : Loaded) (artifact : Artifact), after.current 0 = some loaded ∧
      List.Forall₂ (fun c entry => c.entry.code = none →
          after.Gives 0 entry.2.outline fun o _ => o.Reports loaded.options loaded.path.name c)
        (nameClasses loaded.options 0 artifact.classes) loaded.classes ∧
      ∃ entry ∈ loaded.classes, ∃ o, (after.run 0 entry.2.outline).1 = .ok o ∧
        o.methods = [5, 9] ∧ (pieces '\n' o.code.toList)[8]? = some [] ∧
          (pieces '\n' o.code.toList)[9]? = some "    public void two() \x7b".toList := by
  intro load after
  have plain : ∀ deed ∈ brokenStored, deed.Plain := by simp [brokenStored, Deed.Plain]
  obtain ⟨_, ended⟩ := faultOf?_eq_none.mp (show faultOf? ((Scene.after brokenStored).world.run 0
    load).1 = none by decide +kernel)
  obtain ⟨loaded, artifact, current, _, _, _, all⟩ := reported_lines_declared plain ended
  refine ⟨loaded, artifact, current, all, ?_⟩
  obtain ⟨_, current', seen⟩ := (Option.any_eq_true _ _).mp (show (after.current 0).any
    (fun loaded => loaded.classes.any fun entry =>
      match (after.run 0 entry.2.outline).1 with
      | .ok o => decide (o.methods = [5, 9] ∧ (pieces '\n' o.code.toList)[8]? = some [] ∧
          (pieces '\n' o.code.toList)[9]? = some "    public void two() \x7b".toList)
      | .error _ => false) = true by decide +kernel)
  obtain rfl := Option.some_inj.mp (current.symm.trans current')
  obtain ⟨entry, member, tells⟩ := List.any_eq_true.mp seen
  refine ⟨entry, member, ?_⟩
  split at tells
  · rename_i o told
    exact ⟨o, told, of_decide_eq_true tells⟩
  · contradiction

end DexBrowser.Session
