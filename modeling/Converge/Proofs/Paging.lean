import Converge.Proofs.Faults
import Converge.Proofs.Queries
import Converge.Proofs.Sweeps
import Mathlib.Data.List.Forall2

/-!
# Lists that come page by page

* `run_fetch`: the next reply answers a request.
* `Reply.Leads` : a reply that is a page with another one to follow; `Page.Last` : a page with none. `run_collectPages`: what
  comes of leading pages and of the reply after them, by induction on the pages.
* `Listing` : with which requests the objects of a type are listed, and what becomes of the replies. `ListsByPath` : what the
  requests say, by the path that they are sent to; `list_listing`: lists over a connection are so.
-/

namespace Converge

set_option autoImplicit false

namespace Api

/-! ## Replies to requests -/

section
variable {α : Type} {r : Resource} {options : ListOptions} {token : Option String} {q : Request} {fault : RequestFault}

/-- The next reply answers a request. -/
theorem run_fetch (reader : String → Except String α) (q : Request) (p : Reply) (rest : List Reply) (sent : List Request) :
    (fetch reader q).run ⟨p :: rest, sent⟩ = (p.read reader, ⟨rest, sent ++ [q]⟩) := by
  have sends : (send q).run ⟨p :: rest, sent⟩ = (.ok p, ⟨rest, sent ++ [q]⟩) := rfl
  unfold fetch
  rw [run_bind_ok sends]
  rfl

theorem run_fetchPage (h : pageRequest r options token = .ok q) (p : Reply) (rest : List Reply) (sent : List Request) :
    (fetchPage r options token).run ⟨p :: rest, sent⟩ = (p.read readPage, ⟨rest, sent ++ [q]⟩) := by
  have asks : (checked (pageRequest r options token)).run ⟨p :: rest, sent⟩ = (.ok q, ⟨p :: rest, sent⟩) :=
    congrArg (fun answer => (answer, _)) h
  unfold fetchPage
  rw [run_bind_ok asks, run_fetch]

theorem run_fetchPage_illegal (h : pageRequest r options token = .error fault) (w : Wire) :
    (fetchPage r options token).run w = (.error fault, w) := by
  have refuses : (checked (pageRequest r options token)).run w = (.error fault, w) := congrArg (fun answer => (answer, w)) h
  unfold fetchPage
  rw [run_bind_error refuses]

end

/-! ## Pages -/

/-- No page follows. -/
def Page.Last (page : Page) : Prop := page.metadata.token = none ∨ page.metadata.token = some ""

theorem Page.Last.token {page : Page} (h : page.Last) : page.token = none := by
  unfold Page.token
  rcases h with h | h <;> rw [h] <;> rfl

/-- The reply is a page, and another one follows. -/
def Reply.Leads (p : Reply) (page : Page) : Prop :=
  p.read readPage = .ok page ∧ ∃ token, page.metadata.token = some token ∧ token ≠ ""

theorem Reply.Leads.token {p : Reply} {page : Page} (h : p.Leads page) :
    ∃ token, page.token = some token ∧ page.metadata.token = some token := by
  obtain ⟨-, token, has, full⟩ := h
  have kept : (!token.isEmpty) = true := by
    rw [Bool.not_eq_true', Bool.eq_false_iff, Ne, String.isEmpty_iff]
    exact full
  refine ⟨token, ?_, has⟩
  unfold Page.token
  rw [has, Option.filter_some, if_pos kept]

/-- The tokens of the requests that get the pages and the reply after them. -/
def tokens (pages : List Page) : List (Option String) := none :: pages.map (·.metadata.token)

/-- What comes of a list when it ends with a page or fails. -/
def ended (r : Resource) (items : List Object) : Except RequestFault Page → Except Error (List Object)
  | .ok last => .ok (items ++ last.items)
  | .error fault => .error (.classify fault r.apiVersion r.kind "*")

theorem run_prepend {σ : Type} {r : Resource} {front items : List Object} {answer : Except RequestFault Page}
    {a : Act σ (List Object)} {s s' : σ} (h : a.run s = (ended r items answer, s')) :
    (a >>= fun more => pure (front ++ more)).run s = (ended r (front ++ items) answer, s') := by
  rcases answer with fault | last
  · exact run_bind_error h _
  · rw [run_bind_ok h, ended, List.append_assoc]
    rfl

section
variable {r : Resource} {options : ListOptions} {request : Option String → Request}

/-- **Page by page**: leading pages are asked for one after the other, and the reply after them ends the list. -/
theorem run_collectPages (asked : ∀ token, pageRequest r options token = .ok (request token))
    {ps : List Reply} {pages : List Page} (lead : List.Forall₂ Reply.Leads ps pages) {p : Reply}
    (final : ∀ last, p.read readPage = .ok last → last.Last) (rest : List Reply) {fuel : Nat} (enough : ps.length < fuel)
    (token : Option String) (sent : List Request) :
    (collectPages (fun token => classified r "*" (fetchPage r options token)) fuel token).run ⟨ps ++ p :: rest, sent⟩ =
      (ended r (pages.flatMap (·.items)) (p.read readPage),
        ⟨rest, sent ++ (token :: pages.map (·.metadata.token)).map request⟩) := by
  induction lead generalizing fuel token sent with
  | nil =>
    obtain _ | fuel := fuel
    · exact absurd enough (Nat.not_lt_zero _)
    · have fetched := run_fetchPage (asked token) p rest sent
      unfold collectPages
      rcases answer : p.read readPage with fault | last
      · rw [answer] at fetched
        exact run_bind_error (run_classified_error fetched r _) _
      · rw [answer] at fetched
        rw [List.nil_append, run_bind_ok (run_classified_ok fetched r _), (final last answer).token]
        rfl
  | @cons p₀ page ps pages leads _ ih =>
    obtain _ | fuel := fuel
    · exact absurd enough (Nat.not_lt_zero _)
    · have fetched := run_fetchPage (asked token) p₀ (ps ++ p :: rest) sent
      rw [leads.1] at fetched
      obtain ⟨next, follows, has⟩ := leads.token
      -- One unit of fuel is spent on one reply, so the fuel lasts for the replies that are left.
      have further := ih (Nat.lt_of_succ_lt_succ enough) (some next) (sent ++ [request token])
      unfold collectPages
      rw [List.cons_append, run_bind_ok (run_classified_ok fetched r _), follows, List.map_cons, List.map_cons, has]
      rw [List.append_assoc] at further
      exact run_prepend further

/-- The list over a connection, when leading pages are followed by what ends it. -/
theorem run_listPages (asked : ∀ token, pageRequest r options token = .ok (request token))
    {ps : List Reply} {pages : List Page} (lead : List.Forall₂ Reply.Leads ps pages) {p : Reply}
    (final : ∀ last, p.read readPage = .ok last → last.Last) (rest : List Reply) (sent : List Request) :
    (listPages r options).run ⟨ps ++ p :: rest, sent⟩ =
      (ended r (pages.flatMap (·.items)) (p.read readPage), ⟨rest, sent ++ (tokens pages).map request⟩) := by
  have looks : (Act.ofState get).run (⟨ps ++ p :: rest, sent⟩ : Wire) = (.ok ⟨ps ++ p :: rest, sent⟩, ⟨ps ++ p :: rest, sent⟩) := rfl
  have enough : ps.length < (ps ++ p :: rest).length + 1 := by
    rw [List.length_append]
    omega
  unfold listPages
  rw [run_bind_ok looks]
  exact run_collectPages asked lead final rest enough none sent

/-- A list of what no target names asks for nothing. -/
theorem run_listPages_illegal {fault : RequestFault} (refused : ∀ token, pageRequest r options token = .error fault) (w : Wire) :
    (listPages r options).run w = (.error (.classify fault r.apiVersion r.kind "*"), w) := by
  have looks : (Act.ofState get).run w = (.ok w, w) := rfl
  unfold listPages
  rw [run_bind_ok looks]
  exact run_bind_error (run_classified_error (run_fetchPage_illegal (refused none) w) r _) _

end

/-! ## Lists -/

/-- How the objects of a type are listed over a connection: with which requests, and what becomes of the replies. -/
structure Listing (list : Act Wire (List Object)) (r : Resource) (request : Option String → Request) : Prop where
  /-- Pages up to one that no other follows: as many requests, the first without a token and each other with the token of the
  page before, and the objects of all pages in their order. -/
  whole : ∀ ps pages p last rest sent, List.Forall₂ Reply.Leads ps pages → p.read readPage = .ok last → last.Last →
    list.run ⟨ps ++ p :: rest, sent⟩ =
      (.ok ((pages ++ [last]).flatMap (·.items)), ⟨rest, sent ++ (tokens pages).map request⟩) ∧
    (tokens pages).length = (ps ++ [p]).length
  /-- Pages up to a failure: as many requests, and the failure in place of objects. -/
  broken : ∀ ps pages p fault rest sent, List.Forall₂ Reply.Leads ps pages → p.read readPage = .error fault →
    list.run ⟨ps ++ p :: rest, sent⟩ =
      (.error (.classify fault r.apiVersion r.kind "*"), ⟨rest, sent ++ (tokens pages).map request⟩) ∧
    (tokens pages).length = (ps ++ [p]).length

theorem length_tokens {ps : List Reply} {pages : List Page} (lead : List.Forall₂ Reply.Leads ps pages) (p : Reply) :
    (tokens pages).length = (ps ++ [p]).length := by
  rw [tokens, List.length_cons, List.length_map, List.length_append, lead.length_eq, List.length_singleton]

theorem listing_listPages {r : Resource} {options : ListOptions} {request : Option String → Request}
    (asked : ∀ token, pageRequest r options token = .ok (request token)) : Listing (listPages r options) r request := by
  refine ⟨?whole, ?broken⟩
  case whole =>
    intro ps pages p last rest sent lead answer final
    have ends : ∀ page, p.read readPage = .ok page → page.Last := fun page hp =>
      Except.ok.inj (hp.symm.trans answer) ▸ final
    rw [run_listPages asked lead ends, answer, List.flatMap_append, List.flatMap_singleton]
    exact ⟨rfl, length_tokens lead p⟩
  case broken =>
    intro ps pages p fault rest sent lead answer
    have ends : ∀ page, p.read readPage = .ok page → page.Last := fun page hp => nomatch hp.symm.trans answer
    rw [run_listPages asked lead ends, answer]
    exact ⟨rfl, length_tokens lead p⟩

/-- How the objects of a type are listed, by the path that they are listed under. -/
structure ListsByPath (list : Act Wire (List Object)) (r : Resource) (options : ListOptions) (path : List Char) : Prop where
  /-- If the path has only characters that it may have, each request says all that the list is asked for. -/
  plain : (∀ c ∈ path, isPathChar c = true) →
    ∃ request, Listing list r request ∧ ∀ token, (request token).Asks path options token
  /-- If something in the path begins a query, each request says so, too, behind what the path says. -/
  marked : '#' ∉ path → Legal path = true → ∃ request, Listing list r request ∧
    ∀ token name value, Wanted options token name value → (name, value) ∈ (request token).params
  /-- A fragment is cut off every request, and with it all that the list is asked for. -/
  cut : ∀ front back, path = front ++ '#' :: back → '#' ∉ front → Legal front = true →
    ∃ request, Listing list r request ∧ ∀ token, request token = ⟨.get, String.ofList front, none⟩
  /-- What no target names is not asked for. -/
  refused : Legal (path.takeWhile (· ≠ '#')) = false → ∀ w,
    list.run w = (.error (.request (.malformed "failed to build request: invalid uri character")), w)

/-- **A list loses nothing and repeats nothing**, however its pages are cut, and asks for each of them in the same way. -/
theorem list_listing (config : Config) (r : Resource) (options : ListOptions) :
    ListsByPath ((client config).list r options) r options (collectionPath r options.ns?).toList := by
  change ListsByPath (listPages r options) r options _
  refine ⟨fun plain => ?plain, fun mark legal => ?marked, fun front back split mark legal => ?cut, fun illegal => ?refused⟩
  case plain =>
    obtain ⟨legal, fragment, mark⟩ := legal_of_path plain
    exact ⟨_, listing_listPages fun _ => pageRequest_kept legal fragment, fun _ => pageOn_asks mark⟩
  case marked =>
    exact ⟨_, listing_listPages fun _ => pageRequest_kept legal mark, fun _ _ _ wanted => mem_params_pageOn wanted⟩
  case cut =>
    exact ⟨_, listing_listPages fun _ => pageRequest_cut split mark legal, fun _ => rfl⟩
  case refused =>
    exact run_listPages_illegal fun _ => pageRequest_illegal illegal

end Api

/-! ## A sample: a list in two pages -/

namespace Sample

open Api

def answer (status : Nat) (text : String) : Reply := .response status text.toUTF8.toList

/-- A page with one object. -/
def slice (name token : String) : Reply :=
  answer 200 ("\x7b\"metadata\":\x7b\"continue\":\"" ++ token ++ "\"\x7d,\"items\":[\x7b\"metadata\":\x7b\"name\":\"" ++ name ++
    "\"\x7d\x7d]\x7d")

/-- The secrets, over a connection with more pages to come than the list has. -/
def slices (options : ListOptions) : Except Error (List Object) × Wire :=
  ((client {}).list secrets options).run ⟨[slice "a" "x y", slice "b" "", slice "c" ""], []⟩

theorem exists_page (name token : String)
    (h : ((slice name token).read readPage).toOption.map (·.metadata.token) = some (some token)) :
    ∃ page, (slice name token).read readPage = .ok page ∧ page.metadata.token = some token := by
  cases hread : (slice name token).read readPage with
  | error fault =>
    rw [hread] at h
    cases h
  | ok page =>
    rw [hread] at h
    exact ⟨page, rfl, Option.some.inj h⟩

/-- The second request asks for the page that the token of the first one leads to, and for as many objects. -/
theorem list_listing_slices : (∀ c ∈ (collectionPath secrets none).toList, isPathChar c = true) ∧
    ∃ first second, (slices { limit := some 1 }).2.requests = [first, second] ∧ ("limit", "1") ∈ first.params ∧
      (∀ t, ("continue", t) ∉ first.params) ∧ ("limit", "1") ∈ second.params ∧ ("continue", "x y") ∈ second.params := by
  have plain : ∀ c ∈ (collectionPath secrets none).toList, isPathChar c = true :=
    List.all_eq_true.mp (by decide +kernel : (collectionPath secrets none).toList.all isPathChar = true)
  obtain ⟨request, listing, asks⟩ := (list_listing {} secrets { limit := some 1 }).plain plain
  obtain ⟨page, leads, token⟩ := exists_page "a" "x y" (by decide +kernel)
  obtain ⟨last, ends, none⟩ := exists_page "b" "" (by decide +kernel)
  obtain ⟨run, -⟩ := listing.whole [_] [page] _ last [slice "c" ""] []
    (.cons ⟨leads, _, token, by decide⟩ .nil) ends (.inr none)
  have limited : ∀ token, ("limit", "1") ∈ (request token).params := fun token =>
    ((asks token).carries "limit" (toString 1)).mpr (.limit rfl)
  refine ⟨plain, request .none, request (some "x y"), ?_, limited _, fun t ht => ?_, limited _,
    ((asks _).carries _ _).mpr (.token rfl)⟩
  · show (((client {}).list secrets { limit := some 1 }).run ⟨[slice "a" "x y"] ++ slice "b" "" :: [slice "c" ""], []⟩).2.requests = _
    rw [run, tokens, List.map_singleton, token]
    rfl
  · cases (((asks _).carries _ _).mp ht).token_eq

/-- In a namespace that no target names, a list asks for no page at all. -/
theorem not_list_listing : ¬ ∀ (config : Config) (r : Resource) (options : ListOptions),
    ∃ request, Listing ((client config).list r options) r request := by
  intro h
  obtain ⟨request, listing⟩ := h {} secrets { ns? := some "a b" }
  obtain ⟨page, ends, none⟩ := exists_page "b" "" (by decide +kernel)
  obtain ⟨run, -⟩ := listing.whole [] [] _ page [] [] .nil ends (.inr none)
  have silent : (((client {}).list secrets { ns? := some "a b" }).run ⟨[slice "b" ""], []⟩).2.requests.length = 0 := by decide +kernel
  rw [show [slice "b" ""] = [] ++ slice "b" "" :: [] from rfl, run] at silent
  cases silent

example : (slices { limit := some 1 }).1.toOption.map (fun os => os.map (·.metadata.name)) = some [some "a", some "b"] ∧
    (slices { limit := some 1 }).2.requests.map (·.target) =
      ["/api/v1/secrets?&limit=1", "/api/v1/secrets?&limit=1&continue=x+y"] ∧
    (slices { ns? := some "a#b", limit := some 1 }).2.requests.map (·.target) =
      ["/api/v1/namespaces/a", "/api/v1/namespaces/a"] := by decide +kernel

end Sample

end Converge
