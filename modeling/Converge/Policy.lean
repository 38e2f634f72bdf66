import Converge.Codec.Record

/-!
# Policy rules

* `PolicyRule` is a rule of what may be done to which resources; `PolicyRule.codec` reads and writes it.
-/

namespace Converge

set_option autoImplicit false

structure PolicyRule where
  apiGroups : Option (List String) := none
  nonResourceURLs : Option (List String) := none
  resourceNames : Option (List String) := none
  resources : Option (List String) := none
  verbs : List String := []
deriving DecidableEq, Inhabited

namespace PolicyRule

def record : Record PolicyRule where
  name := "PolicyRule"
  blank := {}
  positional := false
  fields := [
    .optional "apiGroups" (.list .string) (·.apiGroups) fun v r => { r with apiGroups := v },
    .optional "nonResourceURLs" (.list .string) (·.nonResourceURLs) fun v r => { r with nonResourceURLs := v },
    .optional "resourceNames" (.list .string) (·.resourceNames) fun v r => { r with resourceNames := v },
    .optional "resources" (.list .string) (·.resources) fun v r => { r with resources := v },
    .lenient "verbs" (.list .string) (·.verbs) fun v r => { r with verbs := v }]

def codec : Codec PolicyRule := record.codec

end PolicyRule

end Converge
