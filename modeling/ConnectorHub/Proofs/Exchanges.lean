import ConnectorHub.Http.Exchange
import Mathlib.Data.List.Basic

/-! What becomes of an exchange over any calls. All that it sends and tells is found in what happened
before: its headers are those set last, its accessors describe the last response that an exchange
returned, and neither failures nor closing leave a trace. Only the credentials of its address go before
a header that was set. -/
namespace ConnectorHub

namespace Text

theorem lowerChar_ofNat : ∀ n < 0x80, lowerChar (Char.ofNat n) = [(Char.ofNat n).toLower] := by
  decide +kernel

theorem lowerFrom_of_ascii {cs : List Char} (h : ∀ c ∈ cs, c.toNat < 0x80) (before : List Char) :
    lowerFrom before cs = cs.map Char.toLower := by
  induction cs generalizing before with
  | nil => rfl
  | cons c r ih =>
    have hc : c.toNat < 0x80 := h c List.mem_cons_self
    have hsigma : c ≠ 'Σ' := by
      rintro rfl
      exact absurd hc (by decide)
    have hlower : lowerChar c = [c.toLower] := by
      simpa using lowerChar_ofNat c.toNat hc
    rw [lowerFrom, if_neg hsigma, hlower, ih fun d hd => h d (List.mem_cons_of_mem _ hd)]
    rfl

theorem lower_of_isAscii {s : String} (h : isAscii s = true) : lower s = asciiLower s := by
  have hchars : ∀ c ∈ s.toList, c.toNat < 0x80 := by
    simpa [isAscii] using h
  rw [lower, asciiLower, lowerFrom_of_ascii hchars]

theorem toNat_toLower_lt_iff (c : Char) : c.toLower.toNat < 0x80 ↔ c.toNat < 0x80 := by
  unfold Char.toLower
  split
  case isTrue h =>
    have hlow : 0x41 ≤ c.toNat := h.1
    have hhigh : c.toNat ≤ 0x5a := h.2
    have hsum : (c.val + ('a'.val - 'A'.val)).toNat = c.toNat + 32 := by
      rw [UInt32.toNat_add]
      change (c.toNat + 32) % 2 ^ 32 = _
      omega
    change (c.val + ('a'.val - 'A'.val)).toNat < 0x80 ↔ _
    omega
  case isFalse => rfl

theorem isAscii_asciiLower (s : String) : isAscii (asciiLower s) = isAscii s := by
  simp [isAscii, asciiLower, toNat_toLower_lt_iff, Function.comp_def]

theorem isAscii_append (s t : String) : isAscii (s ++ t) = (isAscii s && isAscii t) := by
  simp [isAscii]

/-- Texts that differ in the case of ASCII letters only have the same small letters. -/
theorem lower_eq_of_asciiLower_eq {s t : String} (ht : isAscii t = true)
    (h : asciiLower s = asciiLower t) : lower s = lower t := by
  have hs : isAscii s = true := by
    rw [← isAscii_asciiLower, h, isAscii_asciiLower, ht]
  rw [lower_of_isAscii hs, lower_of_isAscii ht, h]

end Text

namespace Http

open Text

namespace Headers

theorem values_append (hs hs' : Headers) (name : String) :
    Headers.values (hs ++ hs') name = Headers.values hs name ++ Headers.values hs' name := by
  simp [values]

/-- The case of a name does not matter. -/
theorem values_congr (hs : Headers) {name name' : String} (h : asciiLower name = asciiLower name') :
    hs.values name = hs.values name' := by
  rw [values, values, h]

/-- What is set explicitly is not added to. -/
theorem values_withDefaults {hs : Headers} {name : String} (h : hs.values name ≠ [])
    (defaults : Headers) : (hs.withDefaults defaults).values name = hs.values name := by
  have hnone : Headers.values (defaults.filter fun d => (hs.values d.1).isEmpty) name = [] := by
    simp only [values, List.map_eq_nil_iff, List.filter_eq_nil_iff, List.mem_filter,
      decide_eq_true_eq]
    rintro d ⟨-, hd⟩ heq
    exact h ((hs.values_congr heq).symm.trans (List.isEmpty_iff.1 hd))
  rw [withDefaults, values_append, hnone, List.append_nil]

section

variable {small : String → String} {name name' : String}

/-- A header that is put in place of all of its name is there alone, whatever tells names apart. -/
theorem filter_put_self (h : small name = small name') (value : String) (hs : Headers) :
    ((hs.filter fun p => small p.1 ≠ small name) ++ [(name, value)]).filter
      (fun p => small p.1 = small name') = [(name, value)] := by
  simp [List.filter_filter, h]

theorem filter_put_of_ne (h : small name ≠ small name') (value : String) (hs : Headers) :
    ((hs.filter fun p => small p.1 ≠ small name) ++ [(name, value)]).filter
      (fun p => small p.1 = small name') = hs.filter fun p => small p.1 = small name' := by
  have hkept : (hs.filter fun p => small p.1 ≠ small name).filter
      (fun p => small p.1 = small name') = hs.filter fun p => small p.1 = small name' := by
    rw [List.filter_filter]
    refine List.filter_congr fun p _ => ?_
    by_cases hp : small p.1 = small name' <;> simp [hp, h.symm]
  have hadded : [(name, value)].filter (fun p => small p.1 = small name') = [] := by
    simp [h]
  rw [List.filter_append, hkept, hadded, List.append_nil]

theorem values_replace_self (hs : Headers) (name value : String) :
    (hs.replace name value).values name = [value] := by
  rw [values, replace, filter_put_self rfl]
  rfl

theorem values_replace_of_ne (hs : Headers) (value : String)
    (h : asciiLower name ≠ asciiLower name') :
    (hs.replace name value).values name' = hs.values name' := by
  rw [values, replace, filter_put_of_ne h, values]

end

end Headers

/-- What may be asked about the last response. -/
inductive Question
  | status
  | body
  | header (name : String)
  | headerValues (name : String)
  deriving DecidableEq, Repr

inductive Answer
  | status (code : Int)
  | body (text : String)
  | header (value : Option String)
  | headerValues (values : List String)
  deriving DecidableEq, Repr

/-- What a response says. No header can be asked for by a name whose small letters are not all in
ASCII. -/
def Response.answer (known : Charsets) (r : Response) : Question → Except ExchangeError Answer
  | .status => .ok (.status r.status)
  | .body => .ok (.body (r.text known))
  | .header name =>
    if isAscii (lower name) then .ok (.header (r.headers.value? (lower name)))
    else .error .unsendable
  | .headerValues name =>
    if isAscii (lower name) then .ok (.headerValues (r.headers.values (lower name)))
    else .error .unsendable

/-- What an exchange says when it is asked. -/
def Exchange.ask (known : Charsets) (x : Exchange) : Question → Except ExchangeError Answer
  | .status => x.status.map .status
  | .body => (x.body known).map .body
  | .header name => (x.header name).map .header
  | .headerValues name => (x.headerValues name).map .headerValues

/-- An exchange says what its last response does. -/
theorem Exchange.ask_eq (known : Charsets) (x : Exchange) (q : Question) :
    x.ask known q = x.lastResponse.bind (·.answer known q) := by
  cases q with
  | status | body => cases h : x.lastResponse <;> simp only [ask, status, body, h] <;> rfl
  | header name | headerValues name =>
    simp only [ask, header, headerValues, headerKey]
    cases x.lastResponse with
    | error e => rfl
    | ok r =>
      by_cases hn : isAscii (lower name) = true <;>
        simp [Except.bind, Except.map, Response.answer, hn]

/-- What may be done with an exchange. A block that closes it is what is done between `enter` and
`leave`. -/
inductive Call
  | setHeader (name value : String)
  | exchange
  | ask (q : Question)
  | enter
  | leave
  | close
  deriving DecidableEq, Repr

def Call.isClosing : Call → Bool
  | .enter | .leave | .close => true
  | _ => false

/-- What happened: a header was set; an exchange was performed, with the request that was sent and what
it was answered with, unless none could be sent, and what the caller was told; or a question was asked. -/
inductive Event
  | set (name value : String)
  | exchanged (sent : Option (Request × Reply)) (told : Except ExchangeError Int)
  | asked (q : Question) (told : Except ExchangeError Answer)
  deriving DecidableEq

/-- A call, with what it left and what happened. What was sent is what reached the far end. -/
def Call.perform (known : Charsets) (c : Call) (x : Exchange) (s : Server) :
    Option Event × Exchange × Server :=
  match c with
  | .setHeader name value => (some (.set name value), x.setHeader name value, s)
  | .exchange =>
    let (told, x', s') := x.perform s
    let sent := s'.received[s.received.length]?.map fun r => (r, s.nextReply)
    (some (.exchanged sent told), x', s')
  | .ask q => (some (.asked q (x.ask known q)), x, s)
  | .enter => (none, x, s)
  | .leave | .close => (none, x.close, s)

/-- Calls one after the other, with all that happened. -/
def run (known : Charsets) : List Call → Exchange → Server → List Event × Exchange × Server
  | [], x, s => ([], x, s)
  | c :: cs, x, s =>
    let (event, x, s) := c.perform known x s
    let (later, x, s) := run known cs x s
    (event.toList ++ later, x, s)

/-- What the latest event gives of all that give something. -/
def latest? {α : Type} (f : Event → Option α) (h : List Event) : Option α := h.reverse.findSome? f

@[simp] theorem latest?_append {α : Type} (f : Event → Option α) (h h' : List Event) :
    latest? f (h ++ h') = (latest? f h').or (latest? f h) := by
  simp [latest?, List.findSome?_append]

@[simp] theorem latest?_singleton {α : Type} (f : Event → Option α) (e : Event) :
    latest? f [e] = f e := by
  simp [latest?]

theorem exists_of_latest? {α : Type} {f : Event → Option α} {h : List Event} {a : α}
    (hf : latest? f h = some a) : ∃ e ∈ h, f e = some a := by
  obtain ⟨e, he, hfe⟩ := List.exists_of_findSome?_eq_some hf
  exact ⟨e, List.mem_reverse.1 he, hfe⟩

/-- What is the latest for `f` is so for `g` if `g` gives the same there and nothing where `f` does
not. -/
theorem latest?_of_latest? {α : Type} {f g : Event → Option α} {h : List Event} {a : α}
    (hnone : ∀ e, f e = none → g e = none) (hsome : ∀ e, f e = some a → g e = some a)
    (hf : latest? f h = some a) : latest? g h = some a := by
  obtain ⟨later, e, earlier, hsplit, he, hlater⟩ := List.findSome?_eq_some_iff.1 hf
  exact List.findSome?_eq_some_iff.2
    ⟨later, e, earlier, hsplit, hsome e he, fun e' he' => hnone e' (hlater e' he')⟩

/-- The header that an event sets, if its name is this one once both are in small letters. -/
def Event.header? (small : String → String) (name : String) : Event → Option (String × String)
  | .set n v => if small n = small name then some (n, v) else none
  | _ => none

/-- The response with which an exchange returned. -/
def Event.response? : Event → Option Response
  | .exchanged (some (_, .response r)) (.ok _) => some r
  | _ => none

/-- The value that was set last for a header, ASCII letters compared without regard to case. -/
def setLast? (name : String) (h : List Event) : Option String :=
  (latest? (Event.header? asciiLower name) h).map (·.2)

/-- The response of the last exchange that returned. -/
def lastResponse? (h : List Event) : Option Response := latest? Event.response? h

/-- The exchange is what the events made of `x₀`, which had no headers and no response. -/
structure Remembers (x₀ : Exchange) (h : List Event) (x : Exchange) : Prop where
  method : x.method = x₀.method
  url : x.url = x₀.url
  data : x.data = x₀.data
  headers : ∀ name, x.headers.filter (fun p => lower p.1 = lower name) =
    (latest? (Event.header? lower name) h).toList
  response : x.response = lastResponse? h

section

variable {known : Charsets} {x₀ x : Exchange} {h : List Event}

theorem Remembers.set (hx : Remembers x₀ h x) (name value : String) :
    Remembers x₀ (h ++ [.set name value]) (x.setHeader name value) where
  method := hx.method
  url := hx.url
  data := hx.data
  headers n := by
    rw [latest?_append, latest?_singleton, Event.header?]
    by_cases heq : lower name = lower n
    · rw [if_pos heq]
      exact Headers.filter_put_self heq value x.headers
    · rw [if_neg heq]
      exact (Headers.filter_put_of_ne heq value x.headers).trans (hx.headers n)
  response := by
    rw [lastResponse?, latest?_append]
    exact hx.response

/-- Whether a connection is open is not remembered. -/
theorem Remembers.of_close (hx : Remembers x₀ h x) {y : Exchange} (hy : y.close = x.close) :
    Remembers x₀ h y where
  method := (congrArg Exchange.method hy).trans hx.method
  url := (congrArg Exchange.url hy).trans hx.url
  data := (congrArg Exchange.data hy).trans hx.data
  headers name := by
    have hheaders : y.close.headers = x.close.headers := congrArg Exchange.headers hy
    exact (congrArg (List.filter _) hheaders).trans (hx.headers name)
  response := (congrArg Exchange.response hy).trans hx.response

/-- An event that neither sets a header nor brings a response changes nothing. -/
theorem Remembers.skip (hx : Remembers x₀ h x) {e : Event}
    (hheader : ∀ name, e.header? lower name = none) (hresponse : e.response? = none) :
    Remembers x₀ (h ++ [e]) x :=
  { hx with
    headers := fun name => by
      rw [latest?_append, latest?_singleton, hheader]
      exact hx.headers name
    response := by
      rw [lastResponse?, latest?_append, latest?_singleton, hresponse]
      exact hx.response }

theorem Remembers.returned (hx : Remembers x₀ h x) (request : Request) (r : Response) (code : Int) :
    Remembers x₀ (h ++ [.exchanged (some (request, .response r)) (.ok code)])
      { x with connected := true, response := some r } where
  method := hx.method
  url := hx.url
  data := hx.data
  headers name := by
    rw [latest?_append, latest?_singleton]
    exact hx.headers name
  response := by
    rw [lastResponse?, latest?_append, latest?_singleton]
    rfl

theorem Event.eq_set_of_header? {small : String → String} {name n v : String} {e : Event}
    (he : e.header? small name = some (n, v)) : e = .set n v ∧ small n = small name := by
  cases e with
  | set n' v' =>
    by_cases hn : small n' = small name
    · cases (if_pos hn).symm.trans he
      exact ⟨rfl, hn⟩
    · cases (if_neg hn).symm.trans he
  | exchanged _ _ => cases he
  | asked _ _ => cases he

/-- Every header that is there was set. -/
theorem Remembers.mem_headers (hx : Remembers x₀ h x) {name value : String}
    (hmem : (name, value) ∈ x.headers) : .set name value ∈ h := by
  have hlast : (name, value) ∈ (latest? (Event.header? lower name) h).toList := by
    rw [← hx.headers]
    simpa using hmem
  obtain ⟨e, he, hset⟩ := exists_of_latest? (Option.mem_toList.1 hlast)
  obtain ⟨rfl, -⟩ := Event.eq_set_of_header? hset
  exact he

/-- Nothing is sent if a header holds characters beyond ASCII. -/
theorem isSendable_iff : x.isSendable = true ↔
    ∀ name value, (name, value) ∈ x.headers → isAscii (name ++ value) = true := by
  simp [Exchange.isSendable, isAscii]

/-- The header that was set last, of those whose names differ in case only, is there alone. -/
theorem Remembers.values_eq (hx : Remembers x₀ h x) (hs : x.isSendable = true)
    {name value : String} (hname : isAscii name = true) (hset : setLast? name h = some value) :
    x.headers.values name = [value] := by
  have hascii : ∀ p ∈ x.headers, (lower p.1 = lower name ↔ asciiLower p.1 = asciiLower name) := by
    intro p hp
    have hboth := isSendable_iff.1 hs p.1 p.2 hp
    rw [isAscii_append, Bool.and_eq_true] at hboth
    rw [lower_of_isAscii hboth.1, lower_of_isAscii hname]
  -- Names are told apart by their small letters in full, which also a letter beyond ASCII may share; a
  -- header of such a name would still be there, and keep the request from being sent.
  have hnone : ∀ e : Event, e.header? lower name = none → e.header? asciiLower name = none := by
    intro e he
    by_contra hsome
    obtain ⟨⟨n, v⟩, hheader⟩ := Option.ne_none_iff_exists'.1 hsome
    obtain ⟨rfl, hn⟩ := Event.eq_set_of_header? hheader
    rw [Event.header?, if_pos (lower_eq_of_asciiLower_eq hname hn)] at he
    cases he
  obtain ⟨⟨n, v⟩, hlast, rfl⟩ := Option.map_eq_some_iff.1 hset
  obtain ⟨e, he, hheader⟩ := exists_of_latest? hlast
  cases hfull : latest? (Event.header? lower name) h with
  | none =>
    have hall := List.findSome?_eq_none_iff.1 hfull e (List.mem_reverse.2 he)
    rw [hnone e hall] at hheader
    cases hheader
  | some p =>
    have hfilter : x.headers.filter (fun q => lower q.1 = lower name) = [p] := by
      rw [hx.headers, hfull]
      rfl
    have hmem : p ∈ x.headers :=
      List.mem_of_mem_filter (hfilter ▸ List.mem_singleton_self p)
    have hlast' : latest? (Event.header? asciiLower name) h = some p := by
      refine latest?_of_latest? hnone (fun e he => ?_) hfull
      obtain ⟨rfl, hp⟩ := Event.eq_set_of_header? he
      exact if_pos ((hascii p hmem).1 hp)
    have hp : p = (n, v) := Option.some.inj (hlast'.symm.trans hlast)
    have hvalues : x.headers.filter (fun q => asciiLower q.1 = asciiLower name) = [p] := by
      rw [← hfilter]
      exact List.filter_congr fun q hq => by rw [decide_eq_decide, hascii q hq]
    rw [Headers.values, hvalues, hp]
    rfl

/-- A request that `x₀` sent after these events and the reply to it, of which the caller was told. -/
structure Delivered (x₀ : Exchange) (before : List Event) (request : Request) (reply : Reply)
    (told : Except ExchangeError Int) : Prop where
  addressed : request.method = upper x₀.method ∧ request.url = x₀.url ∧
    request.body = Url.encodeForm x₀.data
  carries : ∀ name value, isAscii name = true → setLast? name before = some value →
    (credentials? x₀.url = none ∨ asciiLower name ≠ "authorization") →
    request.headers.values name = [value]
  authorizes : ∀ user password, credentials? x₀.url = some (user, password) →
    request.headers.values "authorization" = [basicAuthorization user password]
  returned : ∀ r, reply = .response r → told = .ok r.status
  failed : ∀ f message, reply = .fault f message →
    told = .error (if f.isTransport then .transport message else .fault f)

/-- What happened is what should happen to `x₀` after these events. -/
def Event.Conforms (known : Charsets) (x₀ : Exchange) (before : List Event) : Event → Prop
  | .set _ _ => True
  | .asked q told =>
    told = match lastResponse? before with
      | some r => r.answer known q
      | none => .error .notPerformed
  | .exchanged (some (request, reply)) told => Delivered x₀ before request reply told
  | .exchanged none told =>
    told = .error .unsendable ∧
      ∃ name value, .set name value ∈ before ∧ isAscii (name ++ value) = false

theorem asciiLower_authorization : asciiLower "Authorization" = "authorization" := by
  decide +kernel

theorem values_request (hx : Remembers x₀ h x) (hs : x.isSendable = true) {name value : String}
    (hname : isAscii name = true) (hset : setLast? name h = some value)
    (hfree : credentials? x₀.url = none ∨ asciiLower name ≠ "authorization") :
    x.request.headers.values name = [value] := by
  have hvalues := hx.values_eq hs hname hset
  have hdefaults : ∀ defaults, (Headers.withDefaults x.headers defaults).values name = [value] :=
    fun defaults => (Headers.values_withDefaults (by simp [hvalues]) defaults).trans hvalues
  simp only [Exchange.request, Request.make, Headers.withCredentials, hx.url]
  cases hc : credentials? x₀.url with
  | none => exact hdefaults _
  | some c =>
    have hne : asciiLower "Authorization" ≠ asciiLower name := by
      rw [asciiLower_authorization]
      exact (hfree.resolve_left (by simp [hc])).symm
    exact (Headers.values_replace_of_ne _ _ hne).trans (hdefaults _)

theorem authorization_request (hx : Remembers x₀ h x) {user password : String}
    (hc : credentials? x₀.url = some (user, password)) :
    x.request.headers.values "authorization" = [basicAuthorization user password] := by
  have hcase : asciiLower "authorization" = asciiLower "Authorization" := by
    decide +kernel
  simp only [Exchange.request, Request.make, Headers.withCredentials, hx.url, hc]
  rw [Headers.values_congr _ hcase, Headers.values_replace_self]

theorem delivered_receive (hx : Remembers x₀ h x) (hs : x.isSendable = true) (reply : Reply) :
    Delivered x₀ h x.request reply (x.receive reply).1 where
  addressed := ⟨congrArg upper hx.method, hx.url, congrArg Url.encodeForm hx.data⟩
  carries _ _ hname hset hfree := values_request hx hs hname hset hfree
  authorizes _ _ hc := authorization_request hx hc
  returned r hr := by
    rw [hr]
    rfl
  failed f message hf := by
    rw [hf]
    rfl

theorem remembers_receive (hx : Remembers x₀ h x) (request : Request) (reply : Reply) :
    Remembers x₀ (h ++ [.exchanged (some (request, reply)) (x.receive reply).1])
      (x.receive reply).2 := by
  cases reply with
  | response r => exact hx.returned request r r.status
  | fault f message => exact (hx.skip (fun _ => rfl) rfl).of_close rfl

theorem conforms_ask (hx : Remembers x₀ h x) (q : Question) :
    (Event.asked q (x.ask known q)).Conforms known x₀ h := by
  have hlast : x.lastResponse = match lastResponse? h with
      | some r => .ok r
      | none => .error .notPerformed := by
    cases hlast : lastResponse? h <;> simp [Exchange.lastResponse, hx.response, hlast]
  rw [Event.Conforms, Exchange.ask_eq, hlast]
  cases lastResponse? h <;> rfl

/-- Nothing is sent while a header that was set holds characters beyond ASCII. -/
theorem conforms_unsendable (hx : Remembers x₀ h x) (hs : x.isSendable = false) :
    (Event.exchanged none (.error .unsendable)).Conforms known x₀ h := by
  have hex : ¬ ∀ name value, (name, value) ∈ x.headers → isAscii (name ++ value) = true := by
    rw [← isSendable_iff]
    exact Bool.eq_false_iff.1 hs
  simp only [not_forall] at hex
  obtain ⟨name, value, hmem, hascii⟩ := hex
  exact ⟨rfl, name, value, hx.mem_headers hmem, Bool.eq_false_iff.2 hascii⟩

theorem perform_exchange_of_sendable (hs : x.isSendable = true) (s : Server) :
    Call.exchange.perform known x s =
      (some (.exchanged (some (x.request, s.nextReply)) (x.receive s.nextReply).1),
        (x.receive s.nextReply).2, { s with received := s.received ++ [x.request] }) := by
  simp [Call.perform, Exchange.perform, hs, Server.answer]

theorem perform_exchange_of_not_sendable (hs : x.isSendable = false) (s : Server) :
    Call.exchange.perform known x s =
      (some (.exchanged none (.error .unsendable)), { x with connected := true }, s) := by
  simp [Call.perform, Exchange.perform, hs]

/-- One call: what is remembered goes on, and what happened is what should. -/
theorem Remembers.perform (hx : Remembers x₀ h x) (c : Call) (s : Server) :
    Remembers x₀ (h ++ (c.perform known x s).1.toList) (c.perform known x s).2.1 ∧
      ∀ e, (c.perform known x s).1 = some e → e.Conforms known x₀ h := by
  have hclosed : Remembers x₀ (h ++ []) x.close := by
    rw [List.append_nil]
    exact hx.of_close rfl
  have hquiet : ∀ e : Event, none = some e → e.Conforms known x₀ h :=
    fun e he => absurd he.symm (Option.some_ne_none e)
  cases c with
  | setHeader name value =>
    refine ⟨hx.set name value, fun e he => ?_⟩
    cases he
    trivial
  | exchange =>
    cases hs : x.isSendable with
    | true =>
      rw [perform_exchange_of_sendable hs]
      refine ⟨remembers_receive hx _ _, fun e he => ?_⟩
      cases he
      exact delivered_receive hx hs _
    | false =>
      rw [perform_exchange_of_not_sendable hs]
      refine ⟨(hx.skip (fun _ => rfl) rfl).of_close rfl, fun e he => ?_⟩
      cases he
      exact conforms_unsendable hx hs
  | ask q =>
    refine ⟨hx.skip (fun _ => rfl) rfl, fun e he => ?_⟩
    cases he
    exact conforms_ask hx q
  | enter => exact ⟨by simpa [Call.perform] using hx, hquiet⟩
  | leave => exact ⟨hclosed, hquiet⟩
  | close => exact ⟨hclosed, hquiet⟩

theorem run_cons (c : Call) (cs : List Call) (x : Exchange) (s : Server) :
    run known (c :: cs) x s =
      ((c.perform known x s).1.toList ++ (run known cs (c.perform known x s).2.1 (c.perform known x s).2.2).1,
        (run known cs (c.perform known x s).2.1 (c.perform known x s).2.2).2) := rfl

/-- All calls: each event is what should happen after those before it. -/
theorem Remembers.run (hx : Remembers x₀ h x) (calls : List Call) (s : Server) :
    Remembers x₀ (h ++ (run known calls x s).1) (run known calls x s).2.1 ∧
      ∀ before e after, (run known calls x s).1 = before ++ e :: after →
        e.Conforms known x₀ (h ++ before) := by
  induction calls generalizing h x s with
  | nil =>
    refine ⟨by simpa [Http.run] using hx, fun before e after hsplit => ?_⟩
    simp [Http.run] at hsplit
  | cons c cs ih =>
    obtain ⟨hnext, hconforms⟩ := hx.perform c s
    obtain ⟨hlast, hlater⟩ := ih hnext (c.perform known x s).2.2
    rw [run_cons]
    refine ⟨by rwa [List.append_assoc] at hlast, fun before e after hsplit => ?_⟩
    cases hevent : (c.perform known x s).1 with
    | none =>
      rw [hevent, Option.toList_none, List.append_nil] at hlater
      rw [hevent, Option.toList_none, List.nil_append] at hsplit
      exact hlater before e after hsplit
    | some e₀ =>
      rw [hevent, Option.toList_some] at hlater hsplit
      rcases List.cons_eq_append_iff.1 hsplit with ⟨rfl, heq⟩ | ⟨earlier, rfl, hrest⟩
      · obtain ⟨rfl, -⟩ := List.cons.inj heq
        rw [List.append_nil]
        exact hconforms e hevent
      · have hconform := hlater earlier e after hrest
        rwa [List.append_assoc, List.singleton_append] at hconform

end

/-- Whether a connection is open makes no difference to a call. -/
theorem Call.perform_close (c : Call) (x : Exchange) (s : Server) :
    (c.perform known x.close s).1 = (c.perform known x s).1 ∧
      (c.perform known x.close s).2.1.close = (c.perform known x s).2.1.close ∧
      (c.perform known x.close s).2.2 = (c.perform known x s).2.2 := by
  cases c with
  | setHeader name value => exact ⟨rfl, rfl, rfl⟩
  | exchange =>
    cases hs : x.isSendable with
    | true =>
      have hs' : x.close.isSendable = true := hs
      rw [perform_exchange_of_sendable hs, perform_exchange_of_sendable hs']
      cases s.nextReply <;> exact ⟨rfl, rfl, rfl⟩
    | false =>
      have hs' : x.close.isSendable = false := hs
      rw [perform_exchange_of_not_sendable hs, perform_exchange_of_not_sendable hs']
      exact ⟨rfl, rfl, rfl⟩
  | ask q => cases q <;> exact ⟨rfl, rfl, rfl⟩
  | enter => exact ⟨rfl, rfl, rfl⟩
  | leave => exact ⟨rfl, rfl, rfl⟩
  | close => exact ⟨rfl, rfl, rfl⟩

/-- Nor to any number of them. -/
theorem run_close (calls : List Call) (x : Exchange) (s : Server) :
    (run known calls x.close s).1 = (run known calls x s).1 := by
  induction calls generalizing x s with
  | nil => rfl
  | cons c cs ih =>
    obtain ⟨hevent, hclose, hserver⟩ := c.perform_close x s
    rw [run_cons, run_cons, hevent, hserver, ← ih (c.perform known x.close s).2.1, hclose, ih]

/-- Closing an exchange at any point, or any number of times, makes no difference to what happens. -/
theorem run_filter_isClosing (calls : List Call) (x : Exchange) (s : Server) :
    (run known (calls.filter (!·.isClosing)) x s).1 = (run known calls x s).1 := by
  induction calls generalizing x s with
  | nil => rfl
  | cons c cs ih =>
    by_cases hc : c.isClosing = true
    · rw [List.filter_cons_of_neg (by simp [hc]), ih, run_cons]
      cases c with
      | setHeader name value => cases hc
      | exchange => cases hc
      | ask q => cases hc
      | enter => rfl
      | leave => exact (run_close cs x s).symm
      | close => exact (run_close cs x s).symm
    · rw [List.filter_cons_of_pos (by simp [hc]), run_cons, run_cons, ih]

/-- A failed exchange leaves everything but the connection as it was. -/
theorem perform_error {x : Exchange} {s : Server} {e : ExchangeError}
    (h : (x.perform s).1 = .error e) : (x.perform s).2.1 = { x with connected := true } := by
  cases hs : x.isSendable with
  | true =>
    simp only [Exchange.perform, hs, if_true, Server.answer] at h ⊢
    cases hreply : s.nextReply with
    | response r =>
      rw [hreply] at h
      cases h
    | fault f message => rfl
  | false =>
    simp only [Exchange.perform, hs]
    rfl

/-- An exchange with which nothing was done yet. -/
structure Exchange.IsNew (x : Exchange) : Prop where
  headers : x.headers = []
  response : x.response = none

theorem isNew_get (c : Client) (url : String) : (c.get url).IsNew := by
  unfold Client.get Client.prepare
  split <;> exact ⟨rfl, rfl⟩

theorem Remembers.of_isNew {x : Exchange} (hnew : x.IsNew) : Remembers x [] x where
  method := rfl
  url := rfl
  data := rfl
  headers _ := by
    rw [hnew.headers]
    rfl
  response := hnew.response

/-- An event as the caller sees it, without what was sent. -/
def Event.seen : Event → Event
  | .exchanged _ told => .exchanged none told
  | e => e

/-- Whatever is done with an exchange, and whatever the far end answers: what it sends carries every
header as it was set last, once, but for the credentials of its address, which always go first; what it
is asked is told of the last response with which an exchange returned, whatever charsets are known, and
refused as long as there is none; and a fault is told as what it is, one of the transport as such. Closing makes no difference to
what the caller sees, and a failed exchange changes neither the headers nor the response. -/
theorem exchange_goes_by_its_history (known : Charsets) {x : Exchange} (hnew : x.IsNew) (s : Server)
    (calls : List Call) :
    (∀ before e after, (run known calls x s).1 = before ++ e :: after → e.Conforms known x before) ∧
      (run known (calls.filter (!·.isClosing)) x s).1.map Event.seen = (run known calls x s).1.map Event.seen ∧
      ∀ failure, ((run known calls x s).2.1.perform (run known calls x s).2.2).1 = .error failure →
        ((run known calls x s).2.1.perform (run known calls x s).2.2).2.1 =
          { (run known calls x s).2.1 with connected := true } :=
  ⟨((Remembers.of_isNew hnew).run calls s).2,
    congrArg (List.map Event.seen) (run_filter_isClosing calls x s), fun _ => perform_error⟩

/-- A request to the feeder gate. -/
def feed : Exchange := Client.get ⟨none, .ofDecimal false 10 0⟩ "http://gsa.example:19900/xmlfeed"

def accepted : Response := ⟨202, [("Content-Type", "text/plain")], Utf8.encode "Success"⟩

/-- A far end that answers only the second request. -/
def moody : Server where
  replies := [.fault .connect "refused", .response accepted, .fault .readTimeout "slow"]

def moodyCalls : List Call :=
  [.setHeader "X-Feed" "first", .exchange, .ask .status, .setHeader "x-feed" "second", .enter,
    .exchange, .leave, .close, .exchange, .ask .status]

/-- The header that was set last is sent alone, in whatever case; the status is refused first, and after
closing and a failure that of the one response is still told. -/
theorem feed_goes_by_its_history : feed.IsNew ∧
    ∃ first refused second returned failed status,
      (run Charsets.western moodyCalls feed moody).1 = [.set "X-Feed" "first", first, .asked .status refused,
        .set "x-feed" "second", .exchanged (some (second, .response accepted)) returned, failed,
        .asked .status status] ∧
      refused = .error .notPerformed ∧ second.headers.values "X-FEED" = ["second"] ∧
      returned = .ok 202 ∧ status = .ok (.status 202) := by
  have hnew : feed.IsNew := isNew_get _ _
  obtain ⟨hconforms, -⟩ := exchange_goes_by_its_history Charsets.western hnew moody moodyCalls
  let request (name value : String) : Request := .make "GET" feed.url [(name, value)] []
  have hrun : (run Charsets.western moodyCalls feed moody).1 = [.set "X-Feed" "first",
      .exchanged (some (request "X-Feed" "first", .fault .connect "refused"))
        (.error (.transport "refused")),
      .asked .status (.error .notPerformed), .set "x-feed" "second",
      .exchanged (some (request "x-feed" "second", .response accepted)) (.ok 202),
      .exchanged (some (request "x-feed" "second", .fault .readTimeout "slow"))
        (.error (.transport "slow")),
      .asked .status (.ok (.status 202))] := by
    decide +kernel
  have hrefused := hconforms [_, _] _ _ hrun
  have hdelivered := hconforms [_, _, _, _] _ _ hrun
  have hasked := hconforms [_, _, _, _, _, _] _ _ hrun
  exact ⟨hnew, _, _, _, _, _, _, hrun, hrefused,
    hdelivered.carries "X-FEED" "second" (by decide +kernel) (by decide +kernel)
      (.inl (by decide +kernel)),
    hdelivered.returned accepted rfl, hasked⟩

/-- Credentials in the address go before a header that was set. -/
theorem credentials_go_before_header :
    let x := Client.get ⟨none, .ofDecimal false 10 0⟩ "http://user:pw@gsa.example:19900/xmlfeed"
    let calls : List Call := [.setHeader "Authorization" "Bearer token", .exchange]
    let (events, _, s) := run Charsets.western calls x ⟨[.response accepted], []⟩
    x.IsNew ∧ setLast? "Authorization" events = some "Bearer token" ∧
      s.received.map (·.headers.values "Authorization") = [["Basic dXNlcjpwdw=="]] := by
  exact ⟨isNew_get _ _, by decide +kernel⟩

end Http

end ConnectorHub
