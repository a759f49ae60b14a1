/-
The pages of the provider's own server: whether it lives, whether it is ready, and its metrics.
-/
import MailReconciler.Metrics.Exposition
import MailReconciler.Provider.Basic

namespace MailReconciler

/-- An answer of the server. -/
structure Page where
  status : Nat
  contentType : Option String := none
  body : String := ""
deriving Repr, DecidableEq

namespace Page

/-- A page of plain text. -/
def text (status : Nat) (body : String) : Page := ⟨status, some "text/plain; charset=utf-8", body⟩

/-- The answer where there is no page. -/
def missing : Page := { status := 404 }

/-- The answer to a method that only reading pages do not allow. -/
def notAllowed : Page := { status := 405 }

/-- The same answer without its body. -/
def withoutBody (p : Page) : Page := { p with body := "" }

variable {ρ : Type}

/-- The page that tells whether calls may get through. -/
def readiness (w : World ρ) : Page :=
  if Provider.isReady w then text 200 "ok" else text 503 ("circuit breaker " ++ w.state.breaker.published.message)

/-- The page of all samples so far. -/
def metrics (w : World ρ) : Page :=
  ⟨200, some "text/plain; version=0.0.4; charset=utf-8", (Exposition.ofSamples w.samples).render⟩

/-- The page at a path. -/
def at? (w : World ρ) (path : String) : Option Page :=
  match path with
  | "/healthz" => some (text 200 "ok")
  | "/readyz" => some (readiness w)
  | "/metrics" => some (metrics w)
  | _ => none

/-! ## Requests -/

/-- Whether a character ends the part of a target before it. -/
def endsPath (c : Char) : Bool := c = '?' || c = '#'

/-- What stands behind `://`, if that occurs. -/
def behindScheme? : List Char → Option (List Char)
  | [] => none
  | ':' :: '/' :: '/' :: rest => some rest
  | _ :: rest => behindScheme? rest

/-- The path of a target, which may be a whole URL. It is compared as it is written. -/
def pathOf (target : String) : String :=
  let pathIn (chars : List Char) : List Char := chars.takeWhile fun c => !endsPath c
  let chars := target.toList
  if chars.head? = some '/' then String.ofList (pathIn chars)
  else match behindScheme? chars with
    | none => String.ofList (pathIn chars)
    | some rest =>
      match pathIn (rest.dropWhile fun c => c ≠ '/' && !endsPath c) with
      | [] => "/"
      | path => String.ofList path

/-- Answers a request. Pages are only read; `HEAD` asks for all of a page but its body. -/
def answer (method target : String) (w : World ρ) : Page :=
  match at? w (pathOf target) with
  | none => missing
  | some page =>
    if method = "GET" then page
    else if method = "HEAD" then page.withoutBody
    else notAllowed

end Page
end MailReconciler
