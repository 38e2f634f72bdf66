import Converge.Api.Client
import Converge.Proofs.Runs
import Mathlib.Data.List.Infix

/-!
# Faults of requests

* `RequestFault.Missing` : the server says that something is missing. Just these faults are classified as speaking of an object
  or of its type, the latter if they say so (`Error.classify_reply`, `Error.classify_of_not_missing`).
* `Api.run_classified_ok`, `Api.run_classified_error`: a request with its fault classified.
-/

namespace Converge

set_option autoImplicit false

/-- The server says that something is missing. -/
def RequestFault.Missing (fault : RequestFault) : Prop := ∃ answer, fault = .reply answer ∧ answer.code = 404

/-- The reply says that the server does not serve the type. -/
def ErrorReply.Unserved (answer : ErrorReply) : Prop := Error.unservedText.toList <:+: answer.message.toList

instance (answer : ErrorReply) : Decidable answer.Unserved :=
  inferInstanceAs (Decidable (Error.unservedText.toList <:+: answer.message.toList))

namespace Error

theorem occursIn_iff {part text : List Char} : occursIn part text = true ↔ part <:+: text := by
  induction text with
  | nil => simp only [occursIn, List.isEmpty_iff, List.infix_nil]
  | cons c rest ih => simp only [occursIn, Bool.or_eq_true, List.isPrefixOf_iff_prefix, ih, List.infix_cons_iff]

section
variable {fault : RequestFault} {answer : ErrorReply}

theorem classify_reply (missing : answer.code = 404) (apiVersion kind name : String) :
    classify (.reply answer) apiVersion kind name =
      if answer.Unserved then .kindNotFound apiVersion kind else .notFound kind name := by
  refine (if_pos missing).trans ?_
  simp only [occursIn_iff]
  rfl

theorem classify_of_not_missing (h : ¬ fault.Missing) (apiVersion kind name : String) :
    classify fault apiVersion kind name = .request fault := by
  cases fault with
  | reply answer => exact if_neg fun missing => h ⟨answer, rfl, missing⟩
  | _ => rfl

end

end Error

namespace Api

section
variable {σ α : Type} {q : ExceptT RequestFault (StateM σ) α} {s s' : σ}

theorem run_classified_ok {x : α} (h : q.run s = (.ok x, s')) (r : Resource) (name : String) :
    (classified r name q).run s = (.ok x, s') := run_adapt_ok h _

theorem run_classified_error {fault : RequestFault} (h : q.run s = (.error fault, s')) (r : Resource) (name : String) :
    (classified r name q).run s = (.error (.classify fault r.apiVersion r.kind name), s') := run_adapt_error h _

end

end Api

end Converge
