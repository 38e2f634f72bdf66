import Converge.Proofs.Paging
import Converge.Proofs.Searches

/-!
# Lists of types that are not served

A list names no object, yet its fault is classified as one about an object is.

* `Api.Refuses` : the list of a type ends with an error reply, after pages or at once.
* `Detector.Unlisted` : what comes of a reply of code 404 to the list of a detector; `Detector.unlisted`: it does. The wording of
  the reply decides whether the kind has no orphans or the registration fails.
-/

namespace Converge

set_option autoImplicit false

/-! ## Lists -/

namespace Api

theorem Reply.read_of_text_error {α : Type} {p : Reply} {fault : RequestFault} (h : p.text = .error fault)
    (reader : String → Except String α) : p.read reader = .error fault := by
  unfold Reply.read
  rw [h]
  rfl

/-- Over a connection in the first state, the list of a type is answered by leading pages and then by an error reply. This leaves
the connection in the second state. -/
inductive Refuses (r : Resource) (options : ListOptions) (answer : ErrorReply) : Wire → Wire → Prop
  | mk {request : Option String → Request} {ps : List Reply} {pages : List Page} {p : Reply} (rest : List Reply)
      (sent : List Request) (asked : ∀ token, pageRequest r options token = .ok (request token))
      (lead : List.Forall₂ Reply.Leads ps pages) (refused : p.read readPage = .error (.reply answer)) :
      Refuses r options answer ⟨ps ++ p :: rest, sent⟩ ⟨rest, sent ++ (tokens pages).map request⟩

theorem Refuses.run_list {r : Resource} {options : ListOptions} {answer : ErrorReply} {w w' : Wire}
    (h : Refuses r options answer w w') (missing : answer.code = 404) (config : Config) :
    ((client config).list r options).run w =
      (.error (if answer.Unserved then .kindNotFound r.apiVersion r.kind else .notFound r.kind "*"), w') := by
  obtain @⟨request, ps, pages, p, rest, sent, asked, lead, refused⟩ := h
  have ends : ∀ page, p.read readPage = .ok page → page.Last := fun page hp => nomatch hp.symm.trans refused
  change (listPages r options).run _ = _
  rw [run_listPages asked lead ends, refused, ended, Error.classify_reply missing]

end Api

/-! ## Replies of code 404 -/

/-- What comes of an error reply of code 404 to the list of a detector, over a connection that it leaves in `w'`. -/
structure Detector.Unlisted (config : Config) (d : Detector Api.Wire) (answer : ErrorReply) (w w' : Api.Wire) : Prop where
  listed : ((Api.client config).list d.resource d.options).run w =
    (.error (if answer.Unserved then .kindNotFound d.resource.apiVersion d.resource.kind else .notFound d.resource.kind "*"), w')
  /-- If the reply says that the type is not served, the kind has no orphans. Else the search fails. -/
  searched : ∀ configured kind others, (ObjectReconciler.detect (Api.client config) configured ((kind, some d) :: others)).run w =
    if answer.Unserved then (ObjectReconciler.detect (Api.client config) configured others).run w'
    else (.error (.notFound d.resource.kind "*"), w')
  /-- If it says so, registering orphans collects what the other detectors answer, and fails only if one of these does. -/
  spared : answer.Unserved → ∀ (e : Engine Api.Wire) s before r after pre kind others found more w'',
    e.Asks (Api.client config) s before r after pre kind d others found w →
    (ObjectReconciler.detect (Api.client config) e.components others).run w' = (more, w'') →
    Engine.Collects e (e.registerOrphans.run s).1.1 (e.registerOrphans.run s).1.2
      (((Engine.answers e.components before).run s).1 ++ more.map (found ++ ·) ::
        ((Engine.answers e.components after).run w'').1)
  /-- Else registering orphans fails, for this among other things. -/
  failed : ¬ answer.Unserved → ∀ (e : Engine Api.Wire) s before r after pre kind others found,
    e.Asks (Api.client config) s before r after pre kind d others found w →
    ∃ xs : List Error, .notFound d.resource.kind "*" ∈ xs ∧
      (e.registerOrphans.run s).1.2 = .error (.internal ("; ".intercalate (xs.map Error.message)) "orphans")

/-- **A type that is not served passes for a missing object**, when listed, unless the reply is worded as expected. -/
theorem Detector.unlisted {config : Config} {d : Detector Api.Wire} {answer : ErrorReply} {w w' : Api.Wire}
    (refuses : Api.Refuses d.resource d.options answer w w') (missing : answer.code = 404) : d.Unlisted config answer w w' := by
  have listed := refuses.run_list missing config
  have searched : ∀ configured kind others, (ObjectReconciler.detect (Api.client config) configured ((kind, some d) :: others)).run w =
      if answer.Unserved then (ObjectReconciler.detect (Api.client config) configured others).run w'
      else (.error (.notFound d.resource.kind "*"), w') := by
    intro configured kind others
    rw [ObjectReconciler.run_detect_unlisted listed]
    split <;> rfl
  refine ⟨listed, searched, ?spared, ?failed⟩
  case spared =>
    intro unserved e s before r after pre kind others found more w'' asks goes
    refine asks.collects ?_
    rw [searched, if_pos unserved, goes]
  case failed =>
    intro other e s before r after pre kind others found asks
    have collects := asks.collects ((searched e.components kind others).trans (if_neg other))
    rcases hend : (e.registerOrphans.run s).1.2 with x | n
    · refine ⟨_, ?_, congrArg Except.error (collects.explains x hend)⟩
      exact List.mem_filterMap.mpr ⟨_, List.mem_append_right _ List.mem_cons_self, rfl⟩
    · obtain ⟨cs, hcs⟩ := collects.succeeds.mp ⟨n, hend⟩ _ (List.mem_append_right _ List.mem_cons_self)
      exact nomatch hcs

/-! ## A sample: secrets that nobody serves -/

namespace Sample

/-- A connection with one reply, the words of a server for a path that it does not serve. -/
def unserving : Api.Wire := ⟨[answer 404 "404 page not found\n"], []⟩

/-- What becomes of them: they are no error reply, so all of them is its message. -/
def pageNotFound : ErrorReply := ⟨"404 Not Found", Text.quoted "404 page not found\n", "Failed to parse error data", 404⟩

def secretive : Detector Api.Wire := (Watch.mk {} "Old" secrets none).detector

/-- The connection when secrets were asked for. -/
def spent : Api.Wire := ⟨[], [⟨.get, Api.query "/api/v1/secrets" (Api.pageParams secretive.options none), none⟩]⟩

theorem refuses_secrets : Api.Refuses secretive.resource secretive.options pageNotFound unserving spent := by
  have legal : Api.Legal (Api.collectionPath secrets secretive.options.ns?).toList = true := by decide +kernel
  have mark : '#' ∉ (Api.collectionPath secrets secretive.options.ns?).toList := by decide +kernel
  have asks : ∀ token, Api.pageRequest secrets secretive.options token =
      .ok ⟨.get, Api.query "/api/v1/secrets" (Api.pageParams secretive.options token), none⟩ := fun token =>
    Api.pageRequest_kept legal mark
  have refused : (answer 404 "404 page not found\n").text = .error (.reply pageNotFound) := by decide +kernel
  exact .mk [] [] asks .nil (Api.Reply.read_of_text_error refused _)

theorem unlisted_secrets : ¬ pageNotFound.Unserved ∧ secretive.Unlisted {} pageNotFound unserving spent :=
  ⟨by decide +kernel, Detector.unlisted refuses_secrets rfl⟩

/-- Not every list that is answered with code 404 reports that the type is not served. -/
theorem not_listed_unserved : ¬ ∀ (d : Detector Api.Wire) (answer : ErrorReply) (w w' : Api.Wire),
    Api.Refuses d.resource d.options answer w w' → answer.code = 404 →
    ((Api.client {}).list d.resource d.options).run w =
      (.error (.kindNotFound d.resource.apiVersion d.resource.kind), w') := by
  intro all
  have reported := all secretive pageNotFound unserving spent refuses_secrets rfl
  have worded : ¬ pageNotFound.Unserved := by decide +kernel
  rw [refuses_secrets.run_list rfl, if_neg worded] at reported
  exact nomatch reported

def searching : Engine Api.Wire where
  config := {}
  reconcilers := [(ObjectReconciler.mk (Api.client {}) {} (.insert .empty "Old" (some secretive))).toReconciler]

/-- Registering orphans fails for a secret that has no name. -/
example : (searching.registerOrphans.run unserving).1.2 = .error (.internal "Secret * not found" "orphans") := by
  decide +kernel

end Sample

end Converge
