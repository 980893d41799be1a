import CodecReport.Proofs.Text.Percent
import CodecReport.Proofs.Text.Split
import CodecReport.Query
import Mathlib.Data.List.Basic
import Mathlib.Data.List.Induction

/-!
# Queries are read as they were written

A written query has its marks `&` and `=` between the encoded keys and values only, so it falls into the parts it
was made of, and each part into the key and the value it was made of. What was read is gathered one pair after the
other, and at every moment it tells what the pairs so far tell.
-/

namespace CodecReport.Query

open Text

/-! ### What pairs tell -/

def valuesOf (key : String) (pairs : List (String × Option String)) : List (Option String) :=
  (pairs.filter (·.1 = key)).map (·.2)

/-- What is said about a key by the values it is given, in order. -/
def told : List (Option String) → Option QueryValue
  | [] => none
  | [value] => some (.single value)
  | values => some (.many values)

/-- What is found says of every key what the pairs say of it, with the keys in the order in which they first occur
among the pairs. -/
structure Tells (found : Entries QueryValue) (pairs : List (String × Option String)) : Prop where
  nodup : found.keys.Nodup
  keys : ∀ key, key ∈ found.keys ↔ key ∈ pairs.map Prod.fst
  ordered : found.keys.Pairwise fun a b => (pairs.map Prod.fst).idxOf a < (pairs.map Prod.fst).idxOf b
  values : ∀ key, found.get? key = told (valuesOf key pairs)

/-! ### Gathering -/

theorem valuesOf_concat_self (pairs : List (String × Option String)) (pair : String × Option String) :
    valuesOf pair.1 (pairs ++ [pair]) = valuesOf pair.1 pairs ++ [pair.2] := by
  simp [valuesOf]

theorem valuesOf_concat_of_ne {key : String} {pair : String × Option String} (hne : key ≠ pair.1)
    (pairs : List (String × Option String)) : valuesOf key (pairs ++ [pair]) = valuesOf key pairs := by
  simp [valuesOf, Ne.symm hne]

theorem told_concat (values : List (Option String)) (value : Option String) :
    told (values ++ [value]) = some ((told values).elim (.single value) (·.add value)) := by
  match values with
  | [] | [_] | _ :: _ :: _ => rfl

theorem Tells.gather {found : Entries QueryValue} {pairs : List (String × Option String)} (h : Tells found pairs)
    (pair : String × Option String) : Tells (gather found pair) (pairs ++ [pair]) := by
  have hkeys : (Query.gather found pair).keys =
      if pair.1 ∈ found.keys then found.keys else found.keys ++ [pair.1] := Entries.keys_put ..
  have hold {a : String} (ha : a ∈ found.keys) :
      ((pairs ++ [pair]).map Prod.fst).idxOf a = (pairs.map Prod.fst).idxOf a := by
    rw [List.map_append, List.idxOf_append_of_mem ((h.keys a).mp ha)]
  have hordered : found.keys.Pairwise fun a b =>
      ((pairs ++ [pair]).map Prod.fst).idxOf a < ((pairs ++ [pair]).map Prod.fst).idxOf b :=
    h.ordered.imp_of_mem fun ha hb hlt => by rwa [hold ha, hold hb]
  refine ⟨Entries.nodup_keys_put _ _ h.nodup, fun key => ?_, ?_, fun key => ?_⟩
  · have hmem := h.keys key
    rw [hkeys]
    split
    next hknown =>
      have hpair := (h.keys pair.1).mp hknown
      rw [hmem, List.map_append, List.mem_append, List.map_singleton, List.mem_singleton]
      exact ⟨.inl, fun hkey => hkey.elim id fun heq => heq ▸ hpair⟩
    next =>
      rw [List.mem_append, hmem, List.map_append, List.mem_append]
      rfl
  · rw [hkeys]
    split
    next => exact hordered
    next hnew =>
      refine List.pairwise_append.mpr ⟨hordered, List.pairwise_singleton .., fun a ha b hb => ?_⟩
      obtain rfl := List.mem_singleton.mp hb
      have hnone : pair.1 ∉ pairs.map Prod.fst := fun hmem => hnew ((h.keys _).mpr hmem)
      rw [hold ha, List.map_append, List.idxOf_append_of_notMem hnone]
      exact Nat.lt_of_lt_of_le (List.idxOf_lt_length_of_mem ((h.keys a).mp ha)) (Nat.le_add_right ..)
  · by_cases hkey : key = pair.1
    · subst hkey
      rw [Query.gather, Entries.get?_put_self, valuesOf_concat_self, told_concat, h.values]
      cases told (valuesOf pair.1 pairs) <;> rfl
    · rw [Query.gather, Entries.get?_put_of_ne hkey, valuesOf_concat_of_ne hkey, h.values]

theorem tells_group (pairs : List (String × Option String)) : Tells (group pairs) pairs := by
  induction pairs using List.reverseRecOn with
  | nil => exact ⟨List.nodup_nil, fun _ => Iff.rfl, List.Pairwise.nil, fun _ => rfl⟩
  | append_singleton pairs pair ih =>
    rw [group, List.foldl_append]
    exact ih.gather pair

/-! ### Reading parts -/

theorem not_mem_quotePlus {mark : Char} (hmark : mark ∈ ['&', '=', '?']) (cs : List Char) : mark ∉ quotePlus cs :=
  fun hmem => (isQuoted_of_mem_quotePlus hmem).2 hmark

theorem readPart_writePair (pair : String × Option String) : readPart (writePair pair) = pair := by
  obtain ⟨key, value⟩ := pair
  have hkey : '=' ∉ quotePlus key.toList := not_mem_quotePlus (by decide) _
  cases value with
  | none =>
    simp only [writePair, List.append_nil, readPart, cutAt_of_not_mem hkey, unquotePlus_quotePlus,
      String.ofList_toList, Option.map_none]
  | some value =>
    simp only [writePair, readPart, cutAt_append_cons hkey, unquotePlus_quotePlus, String.ofList_toList,
      Option.map_some]

/-- The marks of a query stand in a written pair only where they mean something. -/
theorem not_mem_writePair {mark : Char} (hmark : mark ∈ ['&', '?']) (pair : String × Option String) :
    mark ∉ writePair pair := by
  have hquoted (cs : List Char) : mark ∉ quotePlus cs := by
    refine not_mem_quotePlus ?_ cs
    rcases List.mem_pair.mp hmark with rfl | rfl <;> simp
  have hne : mark ≠ '=' := by rintro rfl; exact absurd hmark (by decide)
  rw [writePair, List.mem_append]
  rintro (hkey | hvalue)
  · exact hquoted _ hkey
  · split at hvalue
    · exact (List.mem_cons.mp hvalue).elim hne (hquoted _)
    · cases hvalue

theorem writePair_eq_nil {pair : String × Option String} (hpair : writePair pair = []) : pair = ("", none) := by
  rw [← readPart_writePair pair, hpair]
  rfl

/-! ### Reading a query -/

/-- A mark in front of a written query is no part of it. -/
theorem body_ofPairs {pairs : List (String × Option String)} {query : String}
    (hquery : query = ofPairs pairs ∨ query = "?" ++ ofPairs pairs) :
    body query = joinWith '&' (pairs.map writePair) := by
  have hmark : '?' ∉ joinWith '&' (pairs.map writePair) := by
    refine not_mem_joinWith (by decide) fun piece hpiece => ?_
    obtain ⟨pair, _, rfl⟩ := List.mem_map.mp hpiece
    exact not_mem_writePair (by decide) pair
  rcases hquery with rfl | rfl
  · rw [body, ofPairs, String.toList_ofList]
    split
    next rest hrest => exact absurd (hrest ▸ List.mem_cons_self) hmark
    next => rfl
  · have hchars : ("?" ++ ofPairs pairs).toList = '?' :: joinWith '&' (pairs.map writePair) := by
      simp only [ofPairs, String.toList_append, String.toList_ofList]
      rfl
    rw [body, hchars]
    rfl

theorem parse_eq_group {pairs : List (String × Option String)} (hpairs : pairs ≠ [("", none)]) {query : String}
    (hquery : query = ofPairs pairs ∨ query = "?" ++ ofPairs pairs) : parse query = group pairs := by
  rw [parse, body_ofPairs hquery]
  split
  next hempty =>
    match pairs with
    | [] => rfl
    | [pair] => exact absurd (congrArg (· :: []) (writePair_eq_nil hempty)) hpairs
    | pair :: next :: later => exact absurd hempty (List.append_ne_nil_of_right_ne_nil _ (List.cons_ne_nil _ _))
  next hbody =>
    have hne : pairs.map writePair ≠ [] := fun hnil => hbody (by rw [hnil]; rfl)
    have hparts : ∀ piece ∈ pairs.map writePair, '&' ∉ piece := fun piece hpiece => by
      obtain ⟨pair, _, rfl⟩ := List.mem_map.mp hpiece
      exact not_mem_writePair (by decide) pair
    rw [splitAt_joinWith hparts hne, List.map_map]
    exact congrArg group ((List.map_congr_left fun pair _ => readPart_writePair pair).trans (List.map_id pairs))

theorem head?_of_told (values : List (Option String)) :
    ((told values).bind fun found => found.values.head?.join) = values.head?.join := by
  match values with
  | [] | [_] | _ :: _ :: _ => rfl

theorem email?_of_tells {query : String} {pairs : List (String × Option String)} (h : Tells (parse query) pairs) :
    email? query = (pairs.find? (·.1 = "email")).bind (·.2) := by
  have hfirst : (valuesOf "email" pairs).head? = (pairs.find? (·.1 = "email")).map (·.2) := by
    rw [valuesOf, List.head?_map, List.head?_filter]
  have hemail : email? query = (told (valuesOf "email" pairs)).bind fun found => found.values.head?.join := by
    rw [email?, h.values]
    cases told (valuesOf "email" pairs) <;> rfl
  rw [hemail, head?_of_told, hfirst]
  cases pairs.find? (·.1 = "email") <;> rfl

/-- A query reads as the pairs it was written from, and the address it gives is the value of the first of them
whose key is `email`. The one query that reads otherwise is the empty one. -/
theorem parse_ofPairs {pairs : List (String × Option String)} (hpairs : pairs ≠ [("", none)]) {query : String}
    (hquery : query = ofPairs pairs ∨ query = "?" ++ ofPairs pairs) :
    Tells (parse query) pairs ∧ email? query = (pairs.find? (·.1 = "email")).bind (·.2) := by
  have htells : Tells (parse query) pairs := by
    rw [parse_eq_group hpairs hquery]
    exact tells_group pairs
  exact ⟨htells, email?_of_tells htells⟩

/-- Keys and values that have the marks of a query in them, and a key that occurs again without a value. -/
def markedPairs : List (String × Option String) :=
  [("a&b", some "x=1"), ("?é +", none), ("email", some "a+b@c"), ("", some ""), ("email", none)]

theorem parse_ofPairs_marked :
    markedPairs ≠ [("", none)] ∧ Tells (parse ("?" ++ ofPairs markedPairs)) markedPairs ∧
      email? ("?" ++ ofPairs markedPairs) = some "a+b@c" :=
  have hpairs : markedPairs ≠ [("", none)] := by decide
  have hread := parse_ofPairs hpairs (.inr rfl)
  ⟨hpairs, hread.1, hread.2⟩

end CodecReport.Query
