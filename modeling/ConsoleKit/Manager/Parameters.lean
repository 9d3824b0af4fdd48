import ConsoleKit.Framework.CString
import Mathlib.Algebra.Group.Int.Defs

/-! # The parameters of a session

    The list of names and values that `ck-session-leader.c` merges from the
    output of the collector and from what the client asks for, and that
    `ck_session_new_with_parameters` makes properties of.  A client chooses
    the types of its values.
-/

namespace CkManager

open Libc

/-- The names of `parameter_lookup`; a parameter of another name is dropped. -/
inductive Parameter where
  | login_session_id | display_device | x11_display_device | x11_display | remote_host_name
  | session_type | session_class | session_service | is_local | unix_user | user | vtnr
  deriving DecidableEq

/-- A `GVariant`; `other` is one of another type, as it is serialised. -/
inductive GVariant where
  | boolean (b : Bool)
  | int32 (n : Int)
  | uint32 (n : Nat)
  | string (s : CString)
  | object_path (s : CString)
  | signature (s : CString)
  | other (type : CString) (data : List UInt8)
  deriving DecidableEq

/-- NULL for a value of another type. -/
def g_variant_get_string : GVariant → Option CString
  | .string s | .object_path s | .signature s => some s
  | _ => none

/-- `g_dbus_gvariant_to_gvalue` and `g_value_transform` to the type of a
    property; `none` where there is no transformation. -/
structure GValueTransform where
  to_string : GVariant → Option CString
  to_boolean : GVariant → Option Bool
  to_uint : GVariant → Option Nat
  to_string_string : ∀ s, to_string (.string s) = some s
  to_boolean_boolean : ∀ b, to_boolean (.boolean b) = some b
  to_uint_uint32 : ∀ n, to_uint (.uint32 n) = some n

/-- The transformation that keeps the type, and converts an `int` to a
    `guint`. -/
def GValueTransform.same_type : GValueTransform where
  to_string
    | .string s => some s
    | _ => none
  to_boolean
    | .boolean b => some b
    | _ => none
  to_uint
    | .uint32 n => some n
    | .int32 n => some (n % 2 ^ 32).toNat
    | _ => none
  to_string_string _ := rfl
  to_boolean_boolean _ := rfl
  to_uint_uint32 _ := rfl

/-- The values that are given to a property; one that cannot be transformed
    is skipped. -/
def property {α : Type} (transform : GVariant → Option α) (name : Parameter)
    (parameters : List (Parameter × GVariant)) : List α :=
  parameters.filterMap fun e => if e.1 = name then transform e.2 else none

end CkManager
