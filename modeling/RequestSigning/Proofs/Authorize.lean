import RequestSigning.Http.Authorize
import RequestSigning.Proofs.HeaderValues

/-!
# Authorizing is all or nothing

The computation that authorizes a request asks the signer once, for the text of the time, and all
that it does after that is settled by the answer (`Headers.run_authorize`, `Headers.settle`). The
main statement, `authorize_all_or_nothing`, follows the header map: after an error it is what it was,
and otherwise it has the date that was signed and the signature for it, and no other name is touched.

The signer may be any computation with a state of its own, so the statement covers signers at hand
and signers that speak to an agent. What is left of the map is a function of the answer alone
(`Headers.settle`), and that makes the proof a case split on the answer.
-/

namespace RequestSigning

namespace Headers

/-! ### Values in a map -/

/-- A name that was set has that one value. -/
theorem values_set (headers : Headers) (name value : String) :
    (headers.set name value).values name = [value] := by
  simp [values, set, List.filter_append, List.filter_filter]

/-- Setting a name leaves the values of other names, and their order. -/
theorem values_set_of_ne (headers : Headers) {name other : String} (value : String)
    (h : lowerName other ≠ lowerName name) :
    (headers.set name value).values other = headers.values other := by
  have hkept : ∀ entry : String × String,
      (decide (entry.1 = lowerName other) && decide (entry.1 ≠ lowerName name)) =
        decide (entry.1 = lowerName other) := by
    intro entry
    by_cases heq : entry.1 = lowerName other <;> simp [heq, h]
  have hadded : ¬lowerName name = lowerName other := fun heq => h heq.symm
  simp only [values, set, List.filter_append, List.filter_filter, hkept]
  simp [hadded]

theorem lowerName_dateHeader : lowerName dateHeader = dateHeader := by decide

theorem lowerName_authorizationHeader : lowerName authorizationHeader = authorizationHeader := by
  decide

/-! ### What the answer settles -/

/-- The outcome for a signer's answer to a date, and the map afterwards. -/
def settle (headers : Headers) (date : String) :
    Except AuthError String → Except AuthError Unit × Headers
  | .error e => (.error e, headers)
  | .ok text =>
    if isValue text then (.ok (), (headers.set dateHeader date).set authorizationHeader text)
    else (.error (.invalidHeader authorizationHeader "failed to parse header value"), headers)

variable {headers : Headers} {date : String} {answer : Except AuthError String}

/-- The answer settles for success exactly if it is a text that a header can carry. -/
theorem settle_eq_ok_iff :
    (settle headers date answer).1 = .ok () ↔ ∃ text, answer = .ok text ∧ isValue text = true := by
  cases answer with
  | error e => simp [settle]
  | ok text => cases htext : isValue text <;> simp [settle, htext]

/-- An error leaves the map. It is the signer's, or the answer is no header's value. -/
theorem settle_eq_error {e : AuthError} (h : (settle headers date answer).1 = .error e) :
    (settle headers date answer).2 = headers ∧
      (answer = .error e ∨ ∃ text, answer = .ok text ∧ isValue text = false ∧
        e = .invalidHeader authorizationHeader "failed to parse header value") := by
  cases answer with
  | error own => exact ⟨rfl, .inl (congrArg _ (Except.error.inj h))⟩
  | ok text =>
    rw [settle] at h ⊢
    cases htext : isValue text with
    | true => simp [htext] at h
    | false =>
      simp only [htext] at h ⊢
      exact ⟨rfl, .inr ⟨text, rfl, htext, (Except.error.inj h).symm⟩⟩

/-- A success sets the two names, each to one value, and no other. -/
theorem values_settle {text : String} (htext : isValue text = true) :
    (settle headers date (.ok text)).2.values dateHeader = [date] ∧
      (settle headers date (.ok text)).2.values authorizationHeader = [text] ∧
      ∀ name, lowerName name ≠ dateHeader → lowerName name ≠ authorizationHeader →
        (settle headers date (.ok text)).2.values name = headers.values name := by
  have hnames : lowerName dateHeader ≠ lowerName authorizationHeader := by decide
  simp only [settle, htext, if_true]
  refine ⟨?_, values_set _ _ _, ?_⟩
  · rw [values_set_of_ne _ _ hnames, values_set]
  · intro name hdate hauthorization
    rw [← lowerName_dateHeader] at hdate
    rw [← lowerName_authorizationHeader] at hauthorization
    rw [values_set_of_ne _ _ hauthorization, values_set_of_ne _ _ hdate]

section

variable {m : Type → Type} [Monad m]

private theorem run_ofExcept {α : Type} (result : Except AuthError α) :
    (MonadExcept.ofExcept result : ExceptT AuthError m α).run = pure result := by
  cases result <;> rfl

variable [LawfulMonad m]

private theorem run_liftM {α : Type} (action : m α) (headers : Headers) :
    ((liftM action : ExceptT AuthError (StateT Headers m) α)).run.run headers =
      action >>= fun a => pure (.ok a, headers) := by
  simp [liftM, monadLift, MonadLift.monadLift]

private theorem run_modify (change : Headers → Headers) (headers : Headers) :
    ((modify change : ExceptT AuthError (StateT Headers m) Unit)).run.run headers =
      pure (.ok (), change headers) :=
  pure_bind ((), change headers) fun result => pure (Except.ok result.1, result.2)

/-- **One question.** Authorizing asks the signer once, for the text of the time, and does nothing
else but settle the map by the answer. -/
theorem run_authorize (sign : String → m (Except AuthError String)) (time : Timestamp)
    (headers : Headers) :
    (Headers.authorize sign time).run.run headers =
      settle headers (httpDate time) <$> sign (httpDate time) := by
  rw [Headers.authorize, map_eq_pure_bind]
  simp only [ExceptT.run_bind, StateT.run_bind, run_liftM, run_ofExcept, bind_assoc, pure_bind]
  refine bind_congr fun answer => ?_
  cases answer with
  | error e => rfl
  | ok text =>
    -- the date passes its check, so the text decides
    simp only [headerValue, isValue_httpDate, if_true, settle]
    cases isValue text with
    | false => rfl
    | true => simp only [if_true, StateT.run_bind, run_modify, pure_bind]

end

end Headers

/-- A request is authorized in its headers, and only there. -/
theorem HttpRequest.run_authorize {m : Type → Type} [Monad m] [LawfulMonad m] {ε β : Type}
    (sign : String → m (Except AuthError String)) (now : Timestamp) (request : HttpRequest ε β) :
    (HttpRequest.authorize sign now).run.run request =
      (fun settled => (settled.1, { request with headers := settled.2 })) <$>
        (Headers.authorize sign now).run.run request.headers := by
  rw [map_eq_pure_bind]
  rfl

/-! ### The main statement -/

/-- A signer that notes the dates it is asked for, in the order of the questions, in front of a
signer with a state of its own. -/
def noting {σ : Type} (sign : String → StateM σ (Except AuthError String)) (date : String) :
    StateM (List String × σ) (Except AuthError String) :=
  fun noted =>
    let (answer, state) := (sign date).run noted.2
    (answer, noted.1 ++ [date], state)

/-- **All or nothing.** Authorizing at a time asks the signer once, for the text of that time, which
is always a header's value. It succeeds exactly if the signer answers a text that is one too. An
error is the signer's own, or says that its text is none, and leaves the map as it was; a success
leaves one date, the one that was signed, one authorization, the one that was answered, and the
values of all other names. For a request the same happens to its headers and nothing to the rest. -/
theorem authorize_all_or_nothing {σ ε β : Type}
    (sign : String → StateM σ (Except AuthError String)) (time : Timestamp)
    (dates : List String) (state : σ) (headers : Headers) :
    ∃ answer next outcome after,
      (sign (httpDate time)).run state = (answer, next) ∧
      ((Headers.authorize (noting sign) time).run.run headers).run (dates, state) =
        ((outcome, after), dates ++ [httpDate time], next) ∧
      (∀ request : HttpRequest ε β, request.headers = headers →
        ((HttpRequest.authorize (noting sign) time).run.run request).run (dates, state) =
          ((outcome, { request with headers := after }), dates ++ [httpDate time], next)) ∧
      Headers.isValue (httpDate time) = true ∧
      (outcome = .ok () ↔ ∃ text, answer = .ok text ∧ Headers.isValue text = true) ∧
      (∀ e, outcome = .error e → after = headers ∧
        (answer = .error e ∨ ∃ text, answer = .ok text ∧ Headers.isValue text = false ∧
          e = .invalidHeader authorizationHeader "failed to parse header value")) ∧
      (outcome = .ok () → ∃ text, answer = .ok text ∧
        after.values dateHeader = [httpDate time] ∧ after.values authorizationHeader = [text] ∧
        ∀ name, Headers.lowerName name ≠ dateHeader →
          Headers.lowerName name ≠ authorizationHeader →
          after.values name = headers.values name) := by
  rcases hsign : (sign (httpDate time)).run state with ⟨answer, next⟩
  have hnoted : (noting sign (httpDate time)).run (dates, state) =
      (answer, dates ++ [httpDate time], next) := by
    simp only [noting, StateT.run] at hsign ⊢
    rw [hsign]
  have hrun : ((Headers.authorize (noting sign) time).run.run headers).run (dates, state) =
      (Headers.settle headers (httpDate time) answer, dates ++ [httpDate time], next) := by
    rw [Headers.run_authorize, StateT.run_map, hnoted]
    rfl
  refine ⟨answer, next, _, _, rfl, hrun, ?_, Headers.isValue_httpDate time,
    Headers.settle_eq_ok_iff, fun e => Headers.settle_eq_error, fun hok => ?_⟩
  · rintro request rfl
    rw [HttpRequest.run_authorize, StateT.run_map, hrun]
    rfl
  · obtain ⟨text, rfl, htext⟩ := Headers.settle_eq_ok_iff.mp hok
    exact ⟨text, rfl, Headers.values_settle htext⟩

end RequestSigning
