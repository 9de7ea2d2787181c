/-!
Contract: text set in columns of a fixed width.

Owns padding on either side. A text that is wider than its column is written in
full; padding never cuts.
-/

set_option autoImplicit false

namespace ProtectionLimits.Text

/-- The text followed by as many spaces as the column has room for. -/
def padRight (width : Nat) (text : String) : String :=
  text ++ String.ofList (List.replicate (width - text.length) ' ')

/-- The text preceded by as many spaces as the column has room for. -/
def padLeft (width : Nat) (text : String) : String :=
  String.ofList (List.replicate (width - text.length) ' ') ++ text

end ProtectionLimits.Text
