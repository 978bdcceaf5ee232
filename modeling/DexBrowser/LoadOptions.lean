import DexBrowser.Validation

/-!
The settings of a load. Main statements: whatever is read has bounds in order, and the settings
written out read back as themselves.
-/

namespace DexBrowser

/-- Names shorter than the least or longer than the greatest length are replaced when
`deobfuscate` is on. -/
structure LoadOptions where
  escapeUnicode : Bool := true
  showInconsistent : Bool := true
  deobfuscate : Bool := false
  minLength : Nat := 3
  maxLength : Nat := 64
  one_le_maxLength : 1 ≤ maxLength := by decide
  minLength_le_maxLength : minLength ≤ maxLength := by decide
  deriving DecidableEq, Repr

namespace LoadOptions

def names : List String :=
    ["escape_unicode", "show_inconsistent_code", "deobfuscation_on", "deobfuscation_min_length",
      "deobfuscation_max_length"]

def toMembers (options : LoadOptions) : List (String × Json) :=
    [("escape_unicode", .bool options.escapeUnicode),
      ("show_inconsistent_code", .bool options.showInconsistent),
      ("deobfuscation_on", .bool options.deobfuscate),
      ("deobfuscation_min_length", .int options.minLength),
      ("deobfuscation_max_length", .int options.maxLength)]

def unknownMembers (ms : List (String × Json)) : Checked Unit :=
    match ms.filter fun m => !names.contains m.1 with
    | [] => .ok ()
    | unknown => .error (unknown.map fun m => ⟨[.member m.1], .unknownMember⟩)

/-- Settings from the members of an object. That the bounds are in order is looked at when every
setting by itself is right. -/
def ofMembers (validator : Validator) (ms : List (String × Json)) : Checked LoadOptions := do
    let checked :=
      (Json.optional ms "escape_unicode" true validator.boolean).both <|
      (Json.optional ms "show_inconsistent_code" true validator.boolean).both <|
      (Json.optional ms "deobfuscation_on" false validator.boolean).both <|
      (Json.optional ms "deobfuscation_min_length" 3 (validator.atLeast 0)).both <|
      (Json.optional ms "deobfuscation_max_length" 64 (validator.atLeast 1)).both <|
      unknownMembers ms
    let (escapeUnicode, showInconsistent, deobfuscate, least, greatest, _) ← checked
    if ordered : 1 ≤ greatest ∧ least ≤ greatest then
      return ⟨escapeUnicode, showInconsistent, deobfuscate, least, greatest, ordered.1, ordered.2⟩
    else Checked.fail (.reversedBounds least greatest)

def ofJson (validator : Validator) (x : Json) : Checked LoadOptions :=
    match x with
    | .record ms => ofMembers validator ms
    | _ => .fail .notOptions

/-- Members in which later values replace earlier ones of the same name, in place. -/
def override (base changes : List (String × Json)) : List (String × Json) :=
    let replaced := base.map fun m => (m.1, (Json.lookup? m.1 changes).getD m.2)
    replaced ++ changes.filter fun m => !(base.map (·.1)).contains m.1

/-- The options of a load: the given ones, changed by single settings. Options that no setting
changes are taken as they are. -/
def resolve (validator : Validator) (given : Option LoadOptions) (changes : List (String × Json)) :
    Checked LoadOptions :=
    match given, changes with
    | some options, [] => .ok options
    | some options, changes => ofMembers validator (override options.toMembers changes)
    | none, changes => ofMembers validator changes

/-- Options do not change: setting a member is an issue, whatever the member. -/
def assign (_options : LoadOptions) (name : String) : Checked LoadOptions :=
    .error [⟨[.member name], .frozen⟩]

@[simp] theorem resolve_some_nil (validator : Validator) (options : LoadOptions) :
    resolve validator (some options) [] = .ok options := rfl

/-! Settings written and read -/

theorem unknownMembers_toMembers (options : LoadOptions) :
    unknownMembers options.toMembers = .ok () := rfl

@[simp] theorem ofMembers_toMembers (validator : Validator) (options : LoadOptions) :
    ofMembers validator options.toMembers = .ok options := by
  have ordered : 1 ≤ options.maxLength ∧ options.minLength ≤ options.maxLength :=
    ⟨options.one_le_maxLength, options.minLength_le_maxLength⟩
  have escape : Json.optional options.toMembers "escape_unicode" true validator.boolean =
      .ok options.escapeUnicode := Json.optional_eq_ok rfl (validator.boolean_bool _)
  have inconsistent :
      Json.optional options.toMembers "show_inconsistent_code" true validator.boolean =
        .ok options.showInconsistent := Json.optional_eq_ok rfl (validator.boolean_bool _)
  have renamed : Json.optional options.toMembers "deobfuscation_on" false validator.boolean =
      .ok options.deobfuscate := Json.optional_eq_ok rfl (validator.boolean_bool _)
  have least : Json.optional options.toMembers "deobfuscation_min_length" 3 (validator.atLeast 0) =
      .ok options.minLength := Json.optional_eq_ok rfl (validator.atLeast_natCast (Nat.zero_le _))
  have greatest :
      Json.optional options.toMembers "deobfuscation_max_length" 64 (validator.atLeast 1) =
        .ok options.maxLength := Json.optional_eq_ok rfl (validator.atLeast_natCast ordered.1)
  rw [ofMembers, unknownMembers_toMembers, escape, inconsistent, renamed, least, greatest]
  simp [ordered, bind, Except.bind, pure, Except.pure]

end LoadOptions

end DexBrowser
