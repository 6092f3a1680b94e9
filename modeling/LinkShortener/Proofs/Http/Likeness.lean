import LinkShortener.Proofs.Http.Asking

/-! # Likeness of requests

Two requests may differ in the body and in the header fields of one name. Where these are not looked
at, the requests are treated alike.
-/

namespace LinkShortener.Http

namespace Headers

variable {headers others : Headers} {name : String}

theorem first?_eq_head? (headers : Headers) (name : String) :
    headers.first? name = (headers.all name).head? := by
  rw [first?, all, List.head?_map, List.head?_filter]

theorem first?_eq_of_all (same : others.all name = headers.all name) :
    others.first? name = headers.first? name := by
  rw [first?_eq_head?, first?_eq_head?, same]

end Headers

variable {headers others : Headers}

theorem ofHeaders_congr
    (key : headers.first? "x-idempotency-key" = others.first? "x-idempotency-key") :
    IdempotencyKey.ofHeaders headers = IdempotencyKey.ofHeaders others := by
  unfold IdempotencyKey.ofHeaders IdempotencyKey.presence
  rw [key]

theorem saysJson_congr (type : headers.first? "content-type" = others.first? "content-type") :
    saysJson headers = saysJson others := by
  unfold saysJson
  rw [type]

theorem readRequest_congr {shape : Json.Shape} {body other : List UInt8}
    (type : headers.first? "content-type" = others.first? "content-type") (same : body = other) :
    readRequest shape headers body = readRequest shape others other := by
  unfold readRequest
  rw [saysJson_congr type, same]

/-- Requests that are the same but for the body and the header fields of one name. -/
structure Request.SameBut (spared : String) (request other : Request) : Prop where
  method : other.method = request.method
  target : other.target = request.target
  headers : ∀ name, name ≠ spared → other.headers.all name = request.headers.all name
  peer : other.peer = request.peer

namespace Request.SameBut

variable {spared : String} {request other : Request} (same : request.SameBut spared other)

include same

theorem path : other.path = request.path := by
  rw [Request.path, Request.path, pathOnward, pathOnward, same.target]

theorem normalized : request.normalized.SameBut spared other.normalized where
  method := same.method
  target := by
    dsimp only [Request.normalized, withPath]
    rw [same.path, pathOnward, pathOnward, same.target]
  headers := same.headers
  peer := same.peer

theorem first? {name : String} (counts : name ≠ spared) :
    other.headers.first? name = request.headers.first? name :=
  Headers.first?_eq_of_all (same.headers name counts)

/-- They count as requests of one client. -/
theorem charge (counts : spared ∉ ["x-forwarded-for", "x-real-ip", "forwarded"])
    (limiter : RateLimiter) : limiter.charge other = limiter.charge request := by
  simp only [List.mem_cons, List.not_mem_nil, or_false, not_or] at counts
  rcases counts with ⟨forwardedFor, realIp, forwarded⟩
  have proxied : RateLimiter.proxiedAddress? other.headers =
      RateLimiter.proxiedAddress? request.headers := by
    unfold RateLimiter.proxiedAddress?
    rw [same.first? (Ne.symm forwardedFor), same.first? (Ne.symm realIp),
      same.headers "forwarded" (Ne.symm forwarded)]
  unfold RateLimiter.charge RateLimiter.client?
  rw [proxied, same.peer]

theorem leaving (counts : requestIdHeader ≠ spared) (fresh : Uuid) (response : Response) :
    Http.leaving other fresh response = Http.leaving request fresh response := by
  unfold Http.leaving responseId
  rw [same.method, same.first? counts]

end Request.SameBut

end LinkShortener.Http
