import TestImpact.Config.Basic
import TestImpact.Toml.Document

/-! Settings as a document: one line for each setting, none of them twice and no others. -/

namespace TestImpact

namespace Toml.Value

def text? : Value → Option String
  | text s => some s
  | _ => none

def natural? : Value → Option Nat
  | integer n => if 0 ≤ n then some n.toNat else none
  | _ => none

def texts? : Value → Option (List String)
  | texts items => some items
  | _ => none

end Toml.Value

namespace Settings

/-- The settings with one more entry, if there is such a setting and the value is of its kind. -/
def set? (s : Settings) (name : String) (v : Toml.Value) : Option Settings :=
  match name with
  | "output_dir" => v.text?.map fun t => { s with outputDir := some t }
  | "base_ref" => v.text?.map fun t => { s with baseRef := some t }
  | "ui_base_url" => v.text?.map fun t => { s with uiBaseUrl := some t }
  | "api_base_url" => v.text?.map fun t => { s with apiBaseUrl := some t }
  | "workers" => v.natural?.map fun n => { s with workers := some n }
  | "tier_timeout_ms" => v.natural?.map fun n => { s with tierTimeout := some n }
  | "exclude" => v.texts?.map fun ts => { s with exclude := ts }
  | _ => none

def ofEntries? (entries : List (String × Toml.Value)) : Option Settings :=
  if (entries.map Prod.fst).Nodup then entries.foldlM (fun s (name, v) => s.set? name v) {}
  else none

def parse? (document : String) : Option Settings :=
  (Toml.entries? document).bind ofEntries?

end Settings

end TestImpact
