import Holdfast.Credentials
import Holdfast.Proofs.Http.Fields
import Holdfast.Proofs.Text.Trimming

/-!
# Who is let in

A request shows a token, a holder and a role. Each of them is what the first field with its name
shows, if that is plain text and, for the token, begins as it has to; otherwise it is what the query
says (`Credentials.Shown`). A field that is blank is a field all the same, and the query does not
count.

Who shows the secret and a holder that is neither blank nor too long is let in as that holder.
Anyone else is told the first thing that is wrong (`Credentials.verify_shown`).
-/

namespace Holdfast

open Http

namespace Credentials

/-- A field shows something that is taken; where it shows nothing, the query says what is taken. -/
def Taken (shows : String → Prop) (query taken : Option String) : Prop :=
  (∃ value, shows value ∧ taken = some value) ∨ (∀ value, ¬ shows value) ∧ taken = query

/-- **What a request shows** with its fields and its query. -/
structure Shown (h : Headers) (query c : Credentials) : Prop where
  token : Taken (fun token => h.Shows "authorization" ("Bearer " ++ token)) query.token c.token
  holder : Taken (h.Shows "x-holder-id") query.holder c.holder
  role : Taken (h.Shows "x-role") query.role c.role

/-- **What may be wrong with credentials.** A text that is blank is trimmed to the empty text. -/
def Wrong (secret : String) (c : Credentials) : AuthError → Prop
  | .missingToken => c.token = none
  | .badToken => ∃ token, c.token = some token ∧ token ≠ secret
  | .missingHolder => ∀ holder, c.holder = some holder → Text.Trims holder ""
  | .holderTooLong => ∃ holder trimmed, c.holder = some holder ∧ Text.Trims holder trimmed ∧
      256 < trimmed.utf8ByteSize

/-- What may be wrong, in the order in which it is told. -/
def faults : List AuthError := [.missingToken, .badToken, .missingHolder, .holderTooLong]

/-- **The first thing that is wrong with credentials.** -/
def FirstWrong (secret : String) (c : Credentials) (e : AuthError) : Prop :=
  ∃ before after, faults = before ++ e :: after ∧ c.Wrong secret e ∧ ∀ e' ∈ before, ¬ c.Wrong secret e'

/-- **What credentials are answered with.** -/
structure Settled (secret : String) (c : Credentials) (answer : Except AuthError Identity) : Prop where
  /-- Who shows the secret and a holder is let in, and nobody else. -/
  admits : (∃ identity, answer = .ok identity) ↔ c.token = some secret ∧
    ∃ holder trimmed, c.holder = some holder ∧ Text.Trims holder trimmed ∧ trimmed ≠ "" ∧
      trimmed.utf8ByteSize ≤ 256
  /-- It is let in as that holder. -/
  holder : ∀ identity, answer = .ok identity →
    ∃ holder, c.holder = some holder ∧ Text.Trims holder identity.holder.text
  /-- It is a coordinator if its role says so. -/
  coordinator : ∀ identity, answer = .ok identity →
    (identity.coordinator = true ↔ ∃ role, c.role = some role ∧ SameLetters role "coordinator")
  /-- Otherwise the first thing that is wrong is told. -/
  refuses : ∀ e, answer = .error e ↔ c.FirstWrong secret e

section Taken

variable {shows : String → Prop} {read query taken taken' : Option String}

/-- What is read in a field comes before the query. -/
theorem taken_or (reads : ∀ value, read = some value ↔ shows value) (query : Option String) :
    Taken shows query (read.or query) := by
  cases found : read with
  | some value => exact .inl ⟨value, (reads value).1 found, rfl⟩
  | none =>
    refine .inr ⟨fun value shown => ?_, rfl⟩
    rw [← reads, found] at shown
    cases shown

/-- There is only one thing to take, where a field shows one thing at most. -/
theorem Taken.unique (reads : ∀ value, read = some value ↔ shows value)
    (first : Taken shows query taken) (second : Taken shows query taken') : taken = taken' := by
  rcases first with ⟨value, shown, rfl⟩ | ⟨silent, rfl⟩ <;>
    rcases second with ⟨value', shown', rfl⟩ | ⟨silent', rfl⟩
  · exact ((reads value).2 shown).symm.trans ((reads value').2 shown')
  · exact absurd shown (silent' value)
  · exact absurd shown' (silent value')
  · rfl

end Taken

/-- A token stands behind the word for it. -/
theorem bearerToken?_eq_some_iff {s token : String} :
    bearerToken? s = some token ↔ s = "Bearer " ++ token := by
  have word : "Bearer ".toList = bearer := by decide
  have text : s = "Bearer " ++ token ↔ s.toList = bearer ++ token.toList := by
    rw [← String.toList_inj, String.toList_append, word]
  rw [text]
  unfold bearerToken?
  constructor
  · intro read
    split at read
    · rename_i begins
      obtain ⟨rest, split⟩ := List.isPrefixOf_iff_prefix.1 begins
      obtain rfl := Option.some.inj read
      rw [String.toList_ofList, ← split, List.drop_left]
    · cases read
  · intro split
    have begins : bearer.isPrefixOf s.toList = true :=
      List.isPrefixOf_iff_prefix.2 ⟨token.toList, split.symm⟩
    rw [if_pos begins, split, List.drop_left, String.ofList_toList]

section read

variable (h : Headers)

/-- The token is read in the field for it. -/
theorem token_eq_some_iff (token : String) :
    (ofHeaders h).token = some token ↔ h.Shows "authorization" ("Bearer " ++ token) := by
  have lower : "authorization".toLower = "authorization" := by decide +kernel
  rw [ofHeaders, Option.bind_eq_some_iff, ← Headers.text?_eq_some_iff lower]
  constructor
  · rintro ⟨s, found, shown⟩
    exact bearerToken?_eq_some_iff.1 shown ▸ found
  · exact fun found => ⟨_, found, bearerToken?_eq_some_iff.2 rfl⟩

/-- So is the holder. -/
theorem holder_eq_some_iff (holder : String) :
    (ofHeaders h).holder = some holder ↔ h.Shows "x-holder-id" holder :=
  Headers.text?_eq_some_iff (by decide +kernel)

/-- So is the role. -/
theorem role_eq_some_iff (role : String) :
    (ofHeaders h).role = some role ↔ h.Shows "x-role" role :=
  Headers.text?_eq_some_iff (by decide +kernel)

end read

/-- **What a request shows is what its fields show, and the query fills the gaps.** -/
theorem shown_iff {h : Headers} {query c : Credentials} :
    Shown h query c ↔ c = (ofHeaders h).or query := by
  have token := token_eq_some_iff h
  have holder := holder_eq_some_iff h
  have role := role_eq_some_iff h
  constructor
  · intro shown
    obtain ⟨token', holder', role'⟩ := c
    have same_token : token' = _ := shown.token.unique token (taken_or token query.token)
    have same_holder : holder' = _ := shown.holder.unique holder (taken_or holder query.holder)
    have same_role : role' = _ := shown.role.unique role (taken_or role query.role)
    rw [same_token, same_holder, same_role]
    rfl
  · rintro rfl
    exact ⟨taken_or token _, taken_or holder _, taken_or role _⟩

section verify

variable {secret : String} {c : Credentials} {e e' : AuthError} {identity : Identity}

/-- Only one thing is wrong first. -/
theorem FirstWrong.unique (first : c.FirstWrong secret e) (first' : c.FirstWrong secret e') :
    e = e' := by
  classical
  have found : ∀ {e}, c.FirstWrong secret e →
      faults.find? (fun e => decide (c.Wrong secret e)) = some e := by
    rintro e ⟨before, after, split, wrong, others⟩
    refine List.find?_eq_some_iff_append.2 ⟨decide_eq_true wrong, before, after, split, ?_⟩
    intro e' mem
    rw [Bool.not_eq_true', decide_eq_false_iff_not]
    exact others e' mem
  exact Option.some.inj ((found first).symm.trans (found first'))

/-- A holder that is not blank is trimmed. -/
theorem trimmed_eq_some_iff {trimmed : String} :
    (c.holder.map Text.trim).filter (· ≠ "") = some trimmed ↔
      trimmed ≠ "" ∧ ∃ holder, c.holder = some holder ∧ Text.Trims holder trimmed := by
  rw [Option.filter_eq_some_iff, Option.map_eq_some_iff, decide_eq_true_eq, and_comm]
  simp only [Text.trims_iff, eq_comm]

/-- Otherwise there is no holder. -/
theorem trimmed_eq_none_iff :
    (c.holder.map Text.trim).filter (· ≠ "") = none ↔ c.Wrong secret .missingHolder := by
  rw [Wrong]
  cases c.holder with
  | none => simp
  | some holder => simp [Text.trims_iff]

/-- **Whoever is let in shows the secret and a holder.** -/
theorem verify_eq_ok_iff : c.verify secret = .ok identity ↔ c.token = some secret ∧
    (∃ holder, c.holder = some holder ∧ Text.Trims holder identity.holder.text) ∧
    identity.holder.text ≠ "" ∧ identity.holder.text.utf8ByteSize ≤ maxHolder ∧
    identity.coordinator = c.role.any (·.toLower = coordinatorRole) := by
  constructor
  · intro admitted
    unfold verify at admitted
    split at admitted
    · cases admitted
    · rename_i token shown
      split at admitted
      · cases admitted
      · rename_i same
        split at admitted
        · cases admitted
        · rename_i trimmed named
          split at admitted
          · cases admitted
          · rename_i short
            cases admitted
            obtain ⟨some_, holder⟩ := trimmed_eq_some_iff.1 named
            rw [not_not.1 same] at shown
            exact ⟨shown, holder, some_, Nat.le_of_not_lt short, rfl⟩
  · rintro ⟨token, holder, some_, short, role⟩
    have named := trimmed_eq_some_iff.2 ⟨some_, holder⟩
    obtain ⟨⟨name⟩, coordinator⟩ := identity
    dsimp only at named short role
    unfold verify
    simp only [token, named, ne_eq, not_true_eq_false, if_false, Nat.not_lt.2 short, role]

/-- **Who is refused is told what is wrong first.** -/
theorem firstWrong_of_verify (refused : c.verify secret = .error e) : c.FirstWrong secret e := by
  unfold verify at refused
  split at refused
  · rename_i silent
    obtain rfl := Except.error.inj refused
    exact ⟨[], _, rfl, silent, fun e mem => absurd mem List.not_mem_nil⟩
  · rename_i token shown
    have isShown : ¬ c.Wrong secret .missingToken := by simp [Wrong, shown]
    split at refused
    · rename_i other
      obtain rfl := Except.error.inj refused
      exact ⟨[.missingToken], _, rfl, ⟨token, shown, other⟩, by simpa using isShown⟩
    · rename_i same
      have isSecret : ¬ c.Wrong secret .badToken := by
        rintro ⟨token', shown', other⟩
        exact same (Option.some.inj (shown.symm.trans shown') ▸ other)
      split at refused
      · rename_i nobody
        obtain rfl := Except.error.inj refused
        refine ⟨[.missingToken, .badToken], _, rfl, trimmed_eq_none_iff.1 nobody, ?_⟩
        simpa using ⟨isShown, isSecret⟩
      · rename_i trimmed named
        have isNamed : ¬ c.Wrong secret .missingHolder := by
          rw [← trimmed_eq_none_iff, named]
          exact Option.some_ne_none _
        split at refused
        · rename_i long
          obtain rfl := Except.error.inj refused
          obtain ⟨-, holder, there, trims⟩ := trimmed_eq_some_iff.1 named
          refine ⟨[.missingToken, .badToken, .missingHolder], _, rfl, ⟨holder, _, there, trims, long⟩, ?_⟩
          simpa using ⟨isShown, isSecret, isNamed⟩
        · cases refused

/-- Nothing is wrong with the credentials of whoever is let in. -/
theorem not_firstWrong_of_verify (admitted : c.verify secret = .ok identity) :
    ¬ c.FirstWrong secret e := by
  obtain ⟨token, ⟨holder, there, trims⟩, some_, short, -⟩ := verify_eq_ok_iff.1 admitted
  rintro ⟨-, -, -, wrong, -⟩
  cases e with
  | missingToken => exact absurd (token.symm.trans wrong) (Option.some_ne_none _)
  | badToken =>
    obtain ⟨token', shown, other⟩ := wrong
    exact other (Option.some.inj (shown.symm.trans token))
  | missingHolder =>
    have blank := wrong holder there
    exact some_ ((Text.trims_iff.1 trims).trans (Text.trims_iff.1 blank).symm)
  | holderTooLong =>
    obtain ⟨holder', trimmed, there', trims', long⟩ := wrong
    obtain rfl := Option.some.inj (there.symm.trans there')
    obtain rfl := (Text.trims_iff.1 trims').trans (Text.trims_iff.1 trims).symm
    exact absurd short (Nat.not_le.2 long)

/-- **Credentials are answered with what they are worth.** -/
theorem settled_verify (secret : String) (c : Credentials) : c.Settled secret (c.verify secret) where
  admits := by
    constructor
    · rintro ⟨identity, admitted⟩
      obtain ⟨token, ⟨holder, there, trims⟩, some_, short, -⟩ := verify_eq_ok_iff.1 admitted
      exact ⟨token, holder, _, there, trims, some_, short⟩
    · rintro ⟨token, holder, trimmed, there, trims, some_, short⟩
      exact ⟨⟨⟨trimmed⟩, _⟩, verify_eq_ok_iff.2 ⟨token, ⟨holder, there, trims⟩, some_, short, rfl⟩⟩
  holder identity admitted := (verify_eq_ok_iff.1 admitted).2.1
  coordinator identity admitted := by
    have lower : coordinatorRole.toLower = coordinatorRole := by decide +kernel
    obtain ⟨-, -, -, -, role⟩ := verify_eq_ok_iff.1 admitted
    simp only [role, Option.any_eq_true, decide_eq_true_eq, toLower_eq_iff_sameLetters lower]
    rfl
  refuses e := by
    refine ⟨firstWrong_of_verify, fun wrong => ?_⟩
    cases answer : c.verify secret with
    | error e' => rw [wrong.unique (firstWrong_of_verify answer)]
    | ok identity => exact absurd wrong (not_firstWrong_of_verify answer)

end verify

/-- **A request is answered with what it shows**: with its fields, and with its query where they show
nothing. -/
theorem verify_shown (secret : String) (h : Headers) (query : Credentials) :
    ∃ c, Shown h query c ∧ (∀ c', Shown h query c' → c' = c) ∧
      c.Settled secret (((ofHeaders h).or query).verify secret) :=
  ⟨(ofHeaders h).or query, shown_iff.2 rfl, fun _ => shown_iff.1, settled_verify secret _⟩

/-- Fields of which one shows no token and one cannot be read. -/
def mixedFields : Headers :=
  [("Authorization", "Basic s3cret"), ("X-Holder-Id", "b\u00f6b"), ("X-ROLE", "Coordinator"),
    ("x-holder-id", "bob")]

/-- A query that says everything. -/
def mixedQuery : Credentials := ⟨some "s3cret", some "\tann ", some "guest"⟩

/-- The query is asked for the token and for the holder, whose second field does not count, and not
for the role. -/
theorem verify_shown_mixed :
    Shown mixedFields mixedQuery ⟨some "s3cret", some "\tann ", some "Coordinator"⟩ ∧
      Settled "s3cret" ⟨some "s3cret", some "\tann ", some "Coordinator"⟩ (.ok ⟨⟨"ann"⟩, true⟩) := by
  obtain ⟨c, shown, -, settled⟩ := verify_shown "s3cret" mixedFields mixedQuery
  have same : c = ⟨some "s3cret", some "\tann ", some "Coordinator"⟩ :=
    (shown_iff.1 shown).trans (by decide +kernel)
  have answer : ((ofHeaders mixedFields).or mixedQuery).verify "s3cret" = .ok ⟨⟨"ann"⟩, true⟩ := by
    decide +kernel
  rw [answer] at settled
  exact same ▸ ⟨shown, settled⟩

end Credentials
end Holdfast
