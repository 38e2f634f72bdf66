import Converge.Api.Client
import Converge.Proofs.Selectors
import Mathlib.Data.List.TakeWhile

/-!
# Queries as they are read

* `FormEncoding.decode` reads an encoded text; `decode_encode`. Encoded texts have only characters that a query may have, and none
  that sets parameters apart (`mem_encode`).
* `Api.readParams` reads the parameters of a query: `readParams_append`.
* `Legal` targets are those that requests may have; parameters make none illegal (`checkTarget_append`).
* `Request.Asks` : a request says all that a page of a list is asked for; `pageOn_asks`. Whether a page can be asked for, and
  whether the request keeps what it says, hangs on the path alone: `pageRequest_kept`, `pageRequest_cut`, `pageRequest_illegal`.
-/

namespace Converge

set_option autoImplicit false

/-! ## Encoded texts -/

namespace Text.FormEncoding

open Api (isQueryChar)

/-- What a capital hexadecimal digit is worth. -/
def hexValue (c : Char) : Nat := if c.toNat < 65 then c.toNat - 48 else c.toNat - 55

/-- The bytes that an encoded text stands for. -/
def bytes : List Char → List UInt8
  | [] => []
  | '%' :: high :: low :: rest => UInt8.ofNat (16 * hexValue high + hexValue low) :: bytes rest
  | '+' :: rest => String.utf8EncodeChar ' ' ++ bytes rest
  | c :: rest => String.utf8EncodeChar c ++ bytes rest

/-- Reads an encoded text, if it stands for a text. -/
def decode (cs : List Char) : Option String := String.fromUTF8? (bytes cs).toByteArray

theorem hexValue_hexDigit : ∀ n < 16, hexValue (hexDigit n) = n := by decide

theorem bytes_escapeByte (b : UInt8) (rest : List Char) : bytes (escapeByte b ++ rest) = b :: bytes rest := by
  have hb : b.toNat < 256 := b.toNat_lt
  have value : 16 * hexValue (hexDigit (b.toNat / 16)) + hexValue (hexDigit (b.toNat % 16)) = b.toNat := by
    rw [hexValue_hexDigit _ (by omega), hexValue_hexDigit _ (by omega)]
    omega
  unfold escapeByte
  rw [List.cons_append, List.cons_append, List.cons_append, List.nil_append, bytes, value, UInt8.ofNat_toNat]

theorem bytes_flatMap_escapeByte (bs : List UInt8) (rest : List Char) : bytes (bs.flatMap escapeByte ++ rest) = bs ++ bytes rest := by
  induction bs with
  | nil => rfl
  | cons b bs ih => rw [List.flatMap_cons, List.append_assoc, bytes_escapeByte, ih, List.cons_append]

/-- An encoded character is read as its bytes. -/
theorem bytes_encodeChar (c : Char) (rest : List Char) : bytes (encodeChar c ++ rest) = String.utf8EncodeChar c ++ bytes rest := by
  by_cases plain : isUnreserved c = true
  · have percent : c ≠ '%' := by
      rintro rfl
      revert plain
      decide
    have plus : c ≠ '+' := by
      rintro rfl
      revert plain
      decide
    rw [encodeChar_unreserved plain, List.singleton_append, bytes] <;> simp_all
  · unfold encodeChar
    rw [if_neg plain]
    split
    · rename_i blank
      rw [blank, List.singleton_append, bytes]
    · exact bytes_flatMap_escapeByte _ rest

theorem bytes_encode (s : String) : bytes (encode s).toList = s.toList.flatMap String.utf8EncodeChar := by
  have read : ∀ cs : List Char, bytes (cs.flatMap encodeChar) = cs.flatMap String.utf8EncodeChar := by
    intro cs
    induction cs with
    | nil => rfl
    | cons c cs ih => rw [List.flatMap_cons, List.flatMap_cons, bytes_encodeChar, ih]
  unfold encode
  rw [String.toList_ofList, read]

/-- **An encoded text is read as it was.** -/
theorem decode_encode (s : String) : decode (encode s).toList = some s := by
  have same : (bytes (encode s).toList).toByteArray = s.toByteArray := by
    rw [bytes_encode]
    show s.toList.utf8Encode = s.toByteArray
    rw [← String.toByteArray_ofList, String.ofList_toList]
  unfold decode String.fromUTF8?
  rw [same, dif_pos s.isValidUTF8]
  rfl

/-- Of what an encoded text is made. -/
theorem mem_encode {s : String} {c : Char} (h : c ∈ (encode s).toList) : isUnreserved c = true ∨ c = '+' ∨ c = '%' := by
  unfold encode at h
  rw [String.toList_ofList] at h
  obtain ⟨d, -, hc⟩ := List.mem_flatMap.mp h
  unfold encodeChar at hc
  split at hc
  · rename_i hd
    exact .inl (List.mem_singleton.mp hc ▸ hd)
  · split at hc
    · exact .inr (.inl (List.mem_singleton.mp hc))
    · obtain ⟨b, -, hc⟩ := List.mem_flatMap.mp hc
      have hb : b.toNat < 256 := b.toNat_lt
      have digit : ∀ n < 16, isUnreserved (hexDigit n) = true := by decide
      simp only [escapeByte, List.mem_cons, List.not_mem_nil, or_false] at hc
      obtain rfl | rfl | rfl := hc
      · exact .inr (.inr rfl)
      · exact .inl (digit _ (by omega))
      · exact .inl (digit _ (by omega))

theorem isQueryChar_of_isUnreserved {c : Char} (h : isUnreserved c = true) : isQueryChar c = true := by
  unfold isUnreserved at h
  simp only [Bool.or_eq_true, decide_eq_true_eq] at h
  obtain (((h | rfl) | rfl) | rfl) | rfl := h
  · have ranges := alphanum_ranges h
    simp only [isQueryChar, Bool.or_eq_true, Bool.and_eq_true, decide_eq_true_eq, beq_iff_eq]
    omega
  all_goals decide

theorem encode_isQueryChar (s : String) : ∀ c ∈ (encode s).toList, isQueryChar c = true := by
  intro c hc
  rcases mem_encode hc with h | rfl | rfl
  · exact isQueryChar_of_isUnreserved h
  · decide
  · decide

/-- No encoded text has a mark that sets parameters apart. -/
theorem not_mem_encode {mark : Char} (h : mark = '&' ∨ mark = '=') (s : String) : mark ∉ (encode s).toList := by
  intro hm
  rcases h with rfl | rfl <;> exact absurd (mem_encode hm) (by decide)

end Text.FormEncoding

/-! ## Parameters -/

namespace Api

open Text.FormEncoding

/-- The parameters that a query holds, each as its name and its value. -/
def readParams (text : List Char) : List (String × String) :=
  (Text.pieces '&' text).filterMap fun piece => do
    let (name, value) ← Text.cut ['='] piece
    return (← decode name, ← decode value)

/-- A parameter as it is written, without a mark before it. -/
def writeParam (p : String × String) : List Char := (encode p.1).toList ++ '=' :: (encode p.2).toList

/-- The parameters of a query, encoded. -/
def encodedParams (params : List (String × String)) : List Char := params.flatMap fun p => '&' :: writeParam p

theorem readParams_cons (text rest : List Char) : readParams (text ++ '&' :: rest) = readParams text ++ readParams rest := by
  unfold readParams
  rw [Text.pieces_append, List.filterMap_append]

theorem readParams_writeParam (p : String × String) : readParams (writeParam p) = [p] := by
  have whole : '&' ∉ writeParam p := by
    unfold writeParam
    simp only [List.mem_append, List.mem_cons, not_or]
    exact ⟨not_mem_encode (.inl rfl) _, by decide, not_mem_encode (.inl rfl) _⟩
  have mark : Text.cut ['='] (writeParam p) = some ((encode p.1).toList, (encode p.2).toList) :=
    Text.cut_append (not_mem_encode (.inr rfl) _) [] _
  unfold readParams
  rw [Text.pieces_of_not_mem whole, List.filterMap_cons, mark]
  simp only [Option.bind_eq_bind, Option.bind_some, decode_encode]
  rfl

/-- Parameters are read as they were, behind those that were there before. -/
theorem readParams_append (text : List Char) (params : List (String × String)) :
    readParams (text ++ encodedParams params) = readParams text ++ params := by
  induction params generalizing text with
  | nil => rw [encodedParams, List.flatMap_nil, List.append_nil, List.append_nil]
  | cons p params ih =>
    have next : text ++ encodedParams (p :: params) = (text ++ '&' :: writeParam p) ++ encodedParams params := by
      rw [encodedParams, List.flatMap_cons, ← encodedParams, List.append_assoc]
    rw [next, ih, readParams_cons, readParams_writeParam, List.append_assoc, List.singleton_append]

theorem encodedParams_isQueryChar (params : List (String × String)) : ∀ c ∈ encodedParams params, isQueryChar c = true := by
  intro c hc
  obtain ⟨p, -, hc⟩ := List.mem_flatMap.mp hc
  rcases List.mem_cons.mp hc with rfl | hc
  · decide
  · rcases List.mem_append.mp hc with hc | hc
    · exact encode_isQueryChar _ c hc
    · rcases List.mem_cons.mp hc with rfl | hc
      · decide
      · exact encode_isQueryChar _ c hc

theorem toList_query (target : String) (params : List (String × String)) :
    (query target params).toList = target.toList ++ '?' :: encodedParams params := by
  have grows : ∀ t : String, (params.foldl
      (fun t p => t ++ "&" ++ Text.FormEncoding.encode p.1 ++ "=" ++ Text.FormEncoding.encode p.2) t).toList =
      t.toList ++ encodedParams params := by
    induction params with
    | nil => exact fun t => (List.append_nil _).symm
    | cons p params ih =>
      intro t
      rw [List.foldl_cons, ih]
      simp [encodedParams, writeParam]
  unfold query
  rw [grows]
  simp

/-! ## Legal targets -/

section
variable {c : Char} {a b : List Char}

theorem passes_of_not_mem (h : c ∉ a) : ∀ d ∈ a, (d ≠ c : Bool) = true :=
  fun _ hd => decide_eq_true fun hdc => h (hdc ▸ hd)

theorem takeWhile_of_not_mem (h : c ∉ a) : a.takeWhile (· ≠ c) = a :=
  List.takeWhile_eq_self_iff.mpr (passes_of_not_mem h)

theorem takeWhile_append_cons (h : c ∉ a) : (a ++ c :: b).takeWhile (· ≠ c) = a := by
  rw [List.takeWhile_append_of_pos (passes_of_not_mem h), List.takeWhile_cons_of_neg (by simp), List.append_nil]

theorem dropWhile_of_not_mem (h : c ∉ a) : a.dropWhile (· ≠ c) = [] :=
  List.dropWhile_eq_nil_iff.mpr (passes_of_not_mem h)

theorem dropWhile_append_cons (h : c ∉ a) : (a ++ c :: b).dropWhile (· ≠ c) = c :: b := by
  rw [List.dropWhile_append_of_pos (passes_of_not_mem h), List.dropWhile_cons_of_neg (by simp)]

end

/-- Path and query of a target without a fragment have only characters that they may have. -/
def Legal (target : List Char) : Bool :=
  (target.takeWhile (· ≠ '?')).all isPathChar && ((target.dropWhile (· ≠ '?')).drop 1).all isQueryChar

theorem checkTarget_eq (target : List Char) :
    checkTarget target = if Legal (target.takeWhile (· ≠ '#')) then some (target.takeWhile (· ≠ '#')) else none := rfl

theorem legal_append {target tail : List Char} (h : ∀ c ∈ tail, isQueryChar c = true) :
    Legal (target ++ '?' :: tail) = Legal target := by
  have legal : tail.all isQueryChar = true := List.all_eq_true.mpr h
  unfold Legal
  by_cases mark : '?' ∈ target
  · obtain ⟨a, b, rfl, ha⟩ := List.eq_append_cons_of_mem mark
    have hq : isQueryChar '?' = true := by decide
    rw [List.append_assoc, List.cons_append, takeWhile_append_cons ha, takeWhile_append_cons ha, dropWhile_append_cons ha,
      dropWhile_append_cons ha, List.drop_one, List.drop_one, List.tail_cons, List.tail_cons, List.all_append, List.all_cons,
      hq, legal, Bool.and_self, Bool.and_true]
  · rw [takeWhile_append_cons mark, takeWhile_of_not_mem mark, dropWhile_append_cons mark, dropWhile_of_not_mem mark,
      List.drop_one, List.tail_cons, legal]
    rfl

/-- A path that has only characters that it may have is legal, and nothing in it ends it. -/
theorem legal_of_path {path : List Char} (h : ∀ c ∈ path, isPathChar c = true) : Legal path = true ∧ '#' ∉ path ∧ '?' ∉ path := by
  have mark : '?' ∉ path := fun hm => absurd (h _ hm) (by decide)
  have fragment : '#' ∉ path := fun hm => absurd (h _ hm) (by decide)
  refine ⟨?_, fragment, mark⟩
  unfold Legal
  rw [takeWhile_of_not_mem mark, dropWhile_of_not_mem mark, List.all_eq_true.mpr h]
  rfl

/-- **Parameters make no target illegal.** They are kept unless a fragment comes before them, which they are then cut off with. -/
theorem checkTarget_append {path tail : List Char} (h : ∀ c ∈ tail, isQueryChar c = true) : checkTarget (path ++ '?' :: tail) =
    if Legal (path.takeWhile (· ≠ '#')) then some (if '#' ∈ path then path.takeWhile (· ≠ '#') else path ++ '?' :: tail)
    else none := by
  rw [checkTarget_eq]
  by_cases mark : '#' ∈ path
  · obtain ⟨a, b, rfl, ha⟩ := List.eq_append_cons_of_mem mark
    rw [if_pos mark, List.append_assoc, List.cons_append, takeWhile_append_cons ha, takeWhile_append_cons ha]
  · have all : '#' ∉ path ++ '?' :: tail := by
      simp only [List.mem_append, List.mem_cons, not_or]
      exact ⟨mark, by decide, fun hm => absurd (h _ hm) (by decide)⟩
    rw [if_neg mark, takeWhile_of_not_mem mark, takeWhile_of_not_mem all, legal_append h]

/-! ## Requests for pages -/

namespace Request

/-- The path of the target. -/
def path (q : Request) : List Char := q.target.toList.takeWhile (· ≠ '?')

/-- The parameters in the query of the target. -/
def params (q : Request) : List (String × String) := readParams ((q.target.toList.dropWhile (· ≠ '?')).drop 1)

end Request

/-- What is asked for with a page of a list, each under its name. -/
inductive Wanted (options : ListOptions) (token : Option String) : String → String → Prop
  | selector {s} (h : options.selector = some s) : Wanted options token "labelSelector" s
  | limit {n} (h : options.limit = some n) : Wanted options token "limit" (toString n)
  | token {t} (h : token = some t) : Wanted options token "continue" t

theorem Wanted.token_eq {options : ListOptions} {token : Option String} {value : String} (h : Wanted options token "continue" value) :
    token = some value := by
  generalize hname : "continue" = name at h
  cases h with
  | selector | limit => exact absurd hname (by decide)
  | token h => exact h

/-- The request asks on a path for the page of a list that a token leads to. -/
structure Request.Asks (q : Request) (path : List Char) (options : ListOptions) (token : Option String) : Prop where
  method : q.method = .get
  body : q.body = none
  path : q.path = path
  carries : ∀ name value, (name, value) ∈ q.params ↔ Wanted options token name value
  once : (q.params.map (·.1)).Nodup

section
variable {r : Resource} {options : ListOptions} {token : Option String}

theorem mem_pageParams {name value : String} : (name, value) ∈ pageParams options token ↔ Wanted options token name value := by
  unfold pageParams
  simp only [List.mem_append, Option.mem_toList, Option.map_eq_some_iff, Prod.mk.injEq]
  constructor
  · rintro ((⟨s, h, rfl, rfl⟩ | ⟨n, h, rfl, rfl⟩) | ⟨t, h, rfl, rfl⟩)
    · exact .selector h
    · exact .limit h
    · exact .token h
  · rintro (h | h | h)
    · exact .inl (.inl ⟨_, h, rfl, rfl⟩)
    · exact .inl (.inr ⟨_, h, rfl, rfl⟩)
    · exact .inr ⟨_, h, rfl, rfl⟩

theorem nodup_pageParams : ((pageParams options token).map (·.1)).Nodup := by
  unfold pageParams
  cases options.selector <;> cases options.limit <;> cases token <;> simp

/-- The request for a page whose target is kept. -/
def pageOn (path : String) (options : ListOptions) (token : Option String) : Request :=
  ⟨.get, query path (pageParams options token), none⟩

theorem params_pageOn {path : String} (mark : '?' ∉ path.toList) : (pageOn path options token).params = pageParams options token := by
  unfold Request.params pageOn
  dsimp only
  rw [toList_query, dropWhile_append_cons mark, List.drop_one, List.tail_cons]
  exact readParams_append [] _

/-- On a path that nothing in it ends, the request asks for what it should. -/
theorem pageOn_asks {path : String} (mark : '?' ∉ path.toList) : (pageOn path options token).Asks path.toList options token := by
  refine ⟨rfl, rfl, ?_, fun name value => ?_, ?_⟩
  · unfold Request.path pageOn
    dsimp only
    rw [toList_query, takeWhile_append_cons mark]
  · rw [params_pageOn mark, mem_pageParams]
  · rw [params_pageOn mark]
    exact nodup_pageParams

/-- What is asked for stands in the query in any case. -/
theorem mem_params_pageOn {path name value : String} (h : Wanted options token name value) :
    (name, value) ∈ (pageOn path options token).params := by
  have behind : ∃ front, (pageOn path options token).params = readParams front ++ pageParams options token := by
    unfold Request.params pageOn
    dsimp only
    rw [toList_query]
    by_cases mark : '?' ∈ path.toList
    · obtain ⟨a, b, split, ha⟩ := List.eq_append_cons_of_mem mark
      refine ⟨b ++ ['?'], ?_⟩
      rw [split, List.append_assoc, List.cons_append, dropWhile_append_cons ha, List.drop_one, List.tail_cons, ← readParams_append,
        List.append_assoc, List.singleton_append]
    · refine ⟨[], ?_⟩
      rw [dropWhile_append_cons mark, List.drop_one, List.tail_cons]
      exact readParams_append [] _
  obtain ⟨front, same⟩ := behind
  rw [same]
  exact List.mem_append_right _ (mem_pageParams.mpr h)

theorem checkTarget_page (r : Resource) (options : ListOptions) (token : Option String) :
    checkTarget (query (collectionPath r options.ns?) (pageParams options token)).toList =
      if Legal ((collectionPath r options.ns?).toList.takeWhile (· ≠ '#')) then
        some (if '#' ∈ (collectionPath r options.ns?).toList then (collectionPath r options.ns?).toList.takeWhile (· ≠ '#')
          else (query (collectionPath r options.ns?) (pageParams options token)).toList)
      else none := by
  rw [toList_query, checkTarget_append (encodedParams_isQueryChar _)]

theorem pageRequest_illegal (illegal : Legal ((collectionPath r options.ns?).toList.takeWhile (· ≠ '#')) = false) :
    pageRequest r options token = .error (.malformed "failed to build request: invalid uri character") := by
  unfold pageRequest Request.form
  rw [checkTarget_page, illegal]
  rfl

/-- A legal path without a fragment is kept, with all that the list is asked for behind it. -/
theorem pageRequest_kept (legal : Legal (collectionPath r options.ns?).toList = true)
    (mark : '#' ∉ (collectionPath r options.ns?).toList) :
    pageRequest r options token = .ok (pageOn (collectionPath r options.ns?) options token) := by
  unfold pageRequest Request.form
  rw [checkTarget_page, takeWhile_of_not_mem mark, legal, if_pos rfl, if_neg mark]
  dsimp only
  rw [String.ofList_toList]
  rfl

/-- A fragment is cut off, with all that the list is asked for. -/
theorem pageRequest_cut {front back : List Char} (split : (collectionPath r options.ns?).toList = front ++ '#' :: back)
    (mark : '#' ∉ front) (legal : Legal front = true) :
    pageRequest r options token = .ok ⟨.get, String.ofList front, none⟩ := by
  unfold pageRequest Request.form
  rw [checkTarget_page, split, takeWhile_append_cons mark, legal, if_pos rfl, if_pos (by simp)]

end

end Api

end Converge
