import ProtectionLimits.Exhibit.Class

/-!
Contract: the class of trackers and that of their locks.

Owns what these classes say about themselves and the features that they give to their
members.
-/

set_option autoImplicit false

namespace ProtectionLimits.Class

open Constant

def trackers : Class where
  name := "PrintedWarnings"
  home := "xmllimits.diagnostics"
  lineage := ["PrintedWarnings", "object"]
  bases := ["object"]
  description :=
    "\n    A thread-safe, append-only, set of the couples (parser class name,\n    " ++
      "property name) for which a warning has been printed.\n    "
  measures := ⟨24, 0, -48, 16, 546320⟩
  annotations := some []
  data :=
    [⟨"__dict__", none, "dictionary for instance variables"⟩,
     ⟨"__weakref__", none, "list of weak references to the object"⟩]
  routines :=
    [{ name := "__init__"
       home := "xmllimits.diagnostics"
       code :=
         { positional := 1, flags := 3, line := 26, stack := 2, locals := ["self"],
           names := ["set", "_keys", "threading", "Lock", "_lock"], constants := [.absent] }
       annotations := [("return", .value .absent)] },
     { name := "__repr__"
       home := "xmllimits.diagnostics"
       code :=
         { positional := 1, flags := 3, line := 30, stack := 5, locals := ["self"],
           names := ["__class__", "__name__", "sorted", "_keys"],
           constants := [.absent, .text "(", .text ")"] }
       annotations := [("return", .kind "str")] },
     { name := "__len__"
       home := "xmllimits.diagnostics"
       code :=
         { positional := 1, flags := 3, line := 33, stack := 3, locals := ["self"],
           names := ["len", "_keys"], constants := [.absent] }
       annotations := [("return", .kind "int")] },
     { name := "__contains__"
       home := "xmllimits.diagnostics"
       code :=
         { positional := 2, flags := 3, line := 36, stack := 2, locals := ["self", "key"],
           names := ["_keys"], constants := [.absent] }
       annotations := [("key", .kind "object"), ("return", .kind "bool")] },
     { name := "add_if_absent"
       home := "xmllimits.diagnostics"
       description :=
         "\n        Adds a key to the set. Returns `True` if the key is added, `False`\n " ++
           "       if the key was already in the set.\n        "
       code :=
         { positional := 3, flags := 3, line := 39, stack := 6,
           locals := ["self", "parser_class_name", "property_name", "key"],
           names := ["_lock", "_keys", "add"], constants := [.absent, .bool false, .bool true] }
       annotations :=
         [("parser_class_name", .kind "str"), ("property_name", .kind "str"),
          ("return", .kind "bool")] },
     { name := "discard"
       home := "xmllimits.diagnostics"
       code :=
         { positional := 3, flags := 3, line := 51, stack := 6,
           locals := ["self", "parser_class_name", "property_name"],
           names := ["_lock", "_keys", "discard"], constants := [.absent] }
       annotations :=
         [("parser_class_name", .kind "str"), ("property_name", .kind "str"),
          ("return", .value .absent)] },
     { name := "clear"
       home := "xmllimits.diagnostics"
       code :=
         { positional := 1, flags := 3, line := 55, stack := 6, locals := ["self"],
           names := ["_lock", "_keys", "clear"], constants := [.absent] }
       annotations := [("return", .value .absent)] }]

def locks : Class where
  name := "_thread.lock"
  title := "lock"
  home := "_thread"
  lineage := ["_thread.lock", "object"]
  bases := ["object"]
  description :=
    "A lock object is a synchronization primitive.  To create a lock,\ncall " ++
      "threading.Lock().  Methods are:\n\nacquire() -- lock the lock, possibly blocking " ++
      "until it can be obtained\nrelease() -- unlock of the lock\nlocked() -- test whether " ++
      "the lock is currently locked\n\nA lock is not owned by the thread that locked it; " ++
      "another thread may\nunlock it.  A thread attempting to lock a lock that it has " ++
      "already locked\nwill block until another thread unlocks it.  Deadlocks may ensue."
  measures := ⟨40, 0, 0, 24, 545664⟩
  annotations := some []
  methods :=
    [⟨"__enter__", none,
      "acquire(blocking=True, timeout=-1) -> bool\n(acquire_lock() is an obsolete " ++
        "synonym)\n\nLock the lock.  Without argument, this blocks if the lock is " ++
        "already\nlocked (even by the same thread), waiting for another thread to " ++
        "release\nthe lock, and return True once the lock is acquired.\nWith an " ++
        "argument, this will only block if the argument is true,\nand the return value " ++
        "reflects whether the lock is acquired.\nThe blocking operation is interruptible."⟩,
     ⟨"__exit__", none,
      "release()\n(release_lock() is an obsolete synonym)\n\nRelease the lock, " ++
        "allowing another thread that is blocked waiting for\nthe lock to acquire the " ++
        "lock.  The lock must be in the locked state,\nbut it needn't be locked by the " ++
        "same thread that unlocks it."⟩,
     ⟨"_at_fork_reinit", none, ""⟩,
     ⟨"acquire", none,
      "acquire(blocking=True, timeout=-1) -> bool\n(acquire_lock() is an obsolete " ++
        "synonym)\n\nLock the lock.  Without argument, this blocks if the lock is " ++
        "already\nlocked (even by the same thread), waiting for another thread to " ++
        "release\nthe lock, and return True once the lock is acquired.\nWith an " ++
        "argument, this will only block if the argument is true,\nand the return value " ++
        "reflects whether the lock is acquired.\nThe blocking operation is interruptible."⟩,
     ⟨"acquire_lock", none,
      "acquire(blocking=True, timeout=-1) -> bool\n(acquire_lock() is an obsolete " ++
        "synonym)\n\nLock the lock.  Without argument, this blocks if the lock is " ++
        "already\nlocked (even by the same thread), waiting for another thread to " ++
        "release\nthe lock, and return True once the lock is acquired.\nWith an " ++
        "argument, this will only block if the argument is true,\nand the return value " ++
        "reflects whether the lock is acquired.\nThe blocking operation is interruptible."⟩,
     ⟨"locked", none,
      "locked() -> bool\n(locked_lock() is an obsolete synonym)\n\nReturn whether the " ++
        "lock is in the locked state."⟩,
     ⟨"locked_lock", none,
      "locked() -> bool\n(locked_lock() is an obsolete synonym)\n\nReturn whether the " ++
        "lock is in the locked state."⟩,
     ⟨"release", none,
      "release()\n(release_lock() is an obsolete synonym)\n\nRelease the lock, " ++
        "allowing another thread that is blocked waiting for\nthe lock to acquire the " ++
        "lock.  The lock must be in the locked state,\nbut it needn't be locked by the " ++
        "same thread that unlocks it."⟩,
     ⟨"release_lock", none,
      "release()\n(release_lock() is an obsolete synonym)\n\nRelease the lock, " ++
        "allowing another thread that is blocked waiting for\nthe lock to acquire the " ++
        "lock.  The lock must be in the locked state,\nbut it needn't be locked by the " ++
        "same thread that unlocks it."⟩]
  operators := ["__repr__"]

def allTrackers : List Class :=
  [trackers, locks]

end ProtectionLimits.Class
