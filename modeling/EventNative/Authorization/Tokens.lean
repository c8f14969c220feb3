import Mathlib.Data.List.Dedup
import EventNative.GoMap

/-!
# Token ids of the authorization service

The tokens holder maps every client secret, server secret and token id to its
token. `GetTokenId` looks one identity up and answers `""` when no token has
it. `GetAllIdsByToken` collects the ids of a list of identities in a map used
as a set; it looks each identity up without checking whether it is there, so
an identity no token has counts as the zero `Token`, whose id is `""`.

## Implementation notes

`TokensHolder` and `Token` are not part of the sources: `all` is the
`map[string]Token` both functions read and `Id` the only field of a token
they read. The ids come out in the order their keys were first set, one of
the orders Go's `range` may pick; the statements are about which ids come
out and that none comes twice, so they hold for every order.
-/

namespace EventNative.Authorization

/-- `Token`, with the one field the modelled functions read. -/
structure Token where
  id : String

/-- `TokensHolder`, with the one map the modelled functions read. -/
structure TokensHolder where
  all : GoMap Token

/-- The zero `Token{}`, which a missing key of a map reads as. -/
def Token.zero : Token := ⟨""⟩

/-- `GetTokenId`: the id of the token of an identity, `""` when there is none. -/
def getTokenId (tokensHolder : TokensHolder) (tokenFilter : String) : String :=
  match tokensHolder.all.get tokenFilter with
  | some token => token.id
  | none => ""

/-- The `deduplication` map of `GetAllIdsByToken`, after its loop over the identities. -/
def deduplication (tokensHolder : TokensHolder) (tokenIdentity : List String) : GoMap Bool :=
  tokenIdentity.foldl (fun deduplication tokenFilter =>
    deduplication.set ((tokensHolder.all.get tokenFilter).getD Token.zero).id true) GoMap.empty

/-- `GetAllIdsByToken`: the keys of `deduplication`. -/
def getAllIdsByToken (tokensHolder : TokensHolder) (tokenIdentity : List String) : List String :=
  (deduplication tokensHolder tokenIdentity).keys

variable (tokensHolder : TokensHolder)

/-- Reading an identity without its `ok` flag gives the id `GetTokenId` gives. -/
theorem getD_zero_id (tokenFilter : String) :
    ((tokensHolder.all.get tokenFilter).getD Token.zero).id = getTokenId tokensHolder tokenFilter := by
  unfold getTokenId
  cases tokensHolder.all.get tokenFilter <;> rfl

theorem mem_keys_foldl_set (f : String → String) (l : List String) (acc : GoMap Bool) (k : String) :
    k ∈ (l.foldl (fun d x => d.set (f x) true) acc).keys ↔ k ∈ acc.keys ∨ ∃ x ∈ l, f x = k := by
  induction l generalizing acc with
  | nil => simp
  | cons x l ih =>
      rw [List.foldl_cons, ih, GoMap.mem_keys_set]
      constructor
      · rintro ((rfl | h) | ⟨y, hy, rfl⟩)
        · exact .inr ⟨x, List.mem_cons_self _ _, rfl⟩
        · exact .inl h
        · exact .inr ⟨y, List.mem_cons_of_mem _ hy, rfl⟩
      · rintro (h | ⟨y, hy | ⟨_, hy⟩, rfl⟩)
        · exact .inl (.inr h)
        · exact .inl (.inl rfl)
        · exact .inr ⟨y, hy, rfl⟩

/-- The ids `GetAllIdsByToken` returns are those `GetTokenId` gives the identities, `""`
included. -/
theorem mem_getAllIdsByToken (tokenIdentity : List String) (id : String) :
    id ∈ getAllIdsByToken tokensHolder tokenIdentity ↔
      ∃ tokenFilter ∈ tokenIdentity, getTokenId tokensHolder tokenFilter = id := by
  simp only [getAllIdsByToken, deduplication, mem_keys_foldl_set, getD_zero_id, GoMap.keys_empty,
    List.not_mem_nil, false_or]

theorem getAllIdsByToken_nodup (tokenIdentity : List String) :
    (getAllIdsByToken tokensHolder tokenIdentity).Nodup :=
  GoMap.keys_nodup _

/-- Up to the order of its map, `GetAllIdsByToken` returns the ids `GetTokenId` gives the
identities, each once: the result is that list with its repeats removed. -/
theorem getAllIdsByToken_perm_dedup (tokenIdentity : List String) :
    (getAllIdsByToken tokensHolder tokenIdentity).Perm
      (tokenIdentity.map (getTokenId tokensHolder)).dedup :=
  (List.perm_ext_iff_of_nodup (getAllIdsByToken_nodup _ _) (List.nodup_dedup _)).mpr fun id => by
    rw [mem_getAllIdsByToken, List.mem_dedup, List.mem_map]

/-- An identity no token has puts the empty id among the result. -/
theorem empty_id_mem_getAllIdsByToken {tokenIdentity : List String} {tokenFilter : String}
    (hmem : tokenFilter ∈ tokenIdentity) (hnone : tokensHolder.all.get tokenFilter = none) :
    "" ∈ getAllIdsByToken tokensHolder tokenIdentity :=
  (mem_getAllIdsByToken tokensHolder tokenIdentity "").mpr
    ⟨tokenFilter, hmem, by simp [getTokenId, hnone]⟩

/-- A holder with one token `t1` for the identity `secret`: asking for `secret` and an
identity no token has returns `t1` and the empty id. -/
theorem getAllIdsByToken_unknown_identity :
    getAllIdsByToken ⟨GoMap.empty.set "secret" ⟨"t1"⟩⟩ ["secret", "unknown"] = ["t1", ""] ∧
      getTokenId ⟨GoMap.empty.set "secret" ⟨"t1"⟩⟩ "unknown" = "" :=
  ⟨rfl, rfl⟩

end EventNative.Authorization
