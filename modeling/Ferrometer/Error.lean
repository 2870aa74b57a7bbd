import Ferrometer.Foundation.FileTree

/-!
Contract: the errors that configuration, collectors and log shipping pass around.

Owns: the variants of the crate's error type that the modelled code makes or
inspects.

Does not own: the variants of components that are not modelled, and how an error
is displayed.
-/

set_option autoImplicit false

namespace Ferrometer

open Ferrometer.Foundation

inductive Error where
  | config (message : String)
  | collector (message : String)
  | source (message : String)
  | sink (message : String)
  | sinkPayloadTooLarge (message : String)
  | sinkRejected (message : String)
  | fileRead (path : Path) (source : IoError)
deriving DecidableEq, Repr

end Ferrometer
