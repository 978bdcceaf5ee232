import DexBrowser.Proofs.Session.Alone
import DexBrowser.Proofs.Session.StaleHandle

/-!
Printing of handles. Main statement: the text of a handle is the text that the managed side has for
its object while the load is alive, and otherwise a name and the identity of the object. None is
given exactly if one of these cannot be put as text or number.
-/

namespace DexBrowser.Managed.Load

theorem Used.written {before after : Load} (used : before.Used after) (v : Value) :
    after.written v = before.written v := by
  rw [Load.written, Load.written, used.describe]

section Text

variable {load : Load} {readers : Nat} {target : Value}

end Text

end DexBrowser.Managed.Load

namespace DexBrowser.Session.Handle

open Managed Session.Action

section Printing

variable {h : Handle} {workspace : Workspace} {load : Load}

/-- The text that the load gives of the object of a handle, unless it was let go. -/
def ownText (h : Handle) (load : Load) (readers : Nat) : Except Fault String × Load :=
    if load.alive then load.toText true readers h.target else (.error h.staleFault, load)

/-- The text that is printed: the load's own, or, if asking for that fails on the managed side, a
name and the identity, told of the load after it was asked. -/
def printed (h : Handle) (load : Load) (inside outside : Nat) : Except Fault String :=
    match (h.ownText load inside).1 with
    | .error (.managed _) => h.fallback (h.ownText load inside).2 outside
    | outcome => outcome

end Printing

end DexBrowser.Session.Handle
