import DexBrowser.Session.Query
import DexBrowser.Session.Save

/-!
The tools that a model may call on a loaded input. A name that is not found is told in the answer.
-/

namespace DexBrowser.Session

open Query

inductive Tool where
  | listClasses (package : Option String) (limit : Int)
  | listPackages
  | classMethods (className : String)
  | classInfo (className : String)
  | classSource (className : String)
  | saveClass (className outputPath : String)
  deriving DecidableEq, Repr

namespace Tool

def name : Tool → String
  | listClasses .. => "list_classes"
  | listPackages => "list_packages"
  | classMethods _ => "class_methods"
  | classInfo _ => "class_info"
  | classSource _ => "class_source"
  | saveClass .. => "save_class"

def names : List String :=
    [listClasses none 0, listPackages, classMethods "", classInfo "", classSource "",
      saveClass "" ""].map name

def classRowJson (row : ClassRow) : Json :=
    .record
      [("fullname", .text row.fullName), ("methods", .int row.methods),
        ("decompiled_line", .int row.line)]

def packageRowJson (row : PackageRow) : Json :=
    .record [("fullname", .text row.fullName), ("classes", .int row.classes)]

def methodRowJson (row : MethodRow) : Json :=
    .record
      [("access", .text row.access), ("return_type", .text row.returnType),
        ("signature", .text row.signature), ("decompiled_line", .int row.line)]

def methodDetailJson (method : MethodDetail) : Json :=
    .record
      [("name", .text method.name), ("signature", .text method.signature),
        ("return_type", .text method.returnType), ("is_constructor", .bool method.isConstructor),
        ("decompiled_line", .int method.line)]

def classDetailJson (detail : ClassDetail) : Json :=
    .record
      [("fullname", .text detail.fullName), ("name", .text detail.name),
        ("package", .text detail.package), ("access", .text detail.access),
        ("is_interface", .bool detail.isInterface), ("is_abstract", .bool detail.isAbstract),
        ("decompiled_line", .int detail.line),
        ("methods", .list (detail.methods.map methodDetailJson))]

/-- The answer, or in its place the sentence that a name was not found. -/
def orNotFound (action : Action Json) : Action Json :=
    Action.ofRun fun workspace =>
      match action.run workspace with
      | (.error (.noSuchClass name), workspace) => (.ok (told (.noSuchClass name)), workspace)
      | (.error (.noSuchPackage name), workspace) => (.ok (told (.noSuchPackage name)), workspace)
      | outcome => outcome
where
  told (fault : Fault) : Json := .text ("Error: " ++ fault.message)

def saved (h : Handle) (outputPath : String) : Action Json := do
    if ← h.save (.text outputPath) then
      return .text ("Saved " ++ (← h.fullName) ++ " to " ++ outputPath)
    else return .text ("Error: could not write " ++ outputPath)

def answer : Tool → Action Json
  | listClasses package limit =>
      orNotFound do return .list ((← Query.classes package limit).map classRowJson)
  | listPackages => do return .list ((← Query.packages).map packageRowJson)
  | classMethods className =>
      orNotFound do return .list ((← Query.methods className).map methodRowJson)
  | classInfo className =>
      orNotFound do return classDetailJson (← Query.classDetail (← getClass className))
  | classSource className => orNotFound do return .text (← (← getClass className).code)
  | saveClass className outputPath => do
      match ← found className with
      | .ok h => saved h outputPath
      | .error fault => return orNotFound.told fault
where
  found (className : String) : Action (Except Fault Handle) :=
    Action.ofRun fun workspace =>
      match (getClass className).run workspace with
      | (.ok h, workspace) => (.ok (.ok h), workspace)
      | (.error (.noSuchClass name), workspace) =>
          (.ok (.error (.noSuchClass name)), workspace)
      | (.error fault, workspace) => (.error fault, workspace)

end Tool

end DexBrowser.Session
