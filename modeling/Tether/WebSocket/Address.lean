/-!
# `Tether.WebSocket.Address` — which urls name a host

A url has a scheme followed by `://`, an authority, and a path, a query and a fragment; an authority
may also stand alone. The authority may start with a user before `@`; its host may be an address in
brackets, and one colon may come before a port. `Address.isValid` tells whether a url is written this
way, in ASCII up to the fragment, and names a host.
-/

namespace Tether.WebSocket.Address

/-- The most bytes in a url. -/
def maxSize : Nat := 65534

/-- The most characters in a scheme. -/
def maxScheme : Nat := 64

/-- The most colons in one part of an authority. -/
def maxColons : Nat := 8

/-- May the character stand in a scheme? -/
def inScheme (c : Char) : Bool := c.isAlphanum || ['+', '-', '.', '~'].contains c

/-- May the character stand in an authority, apart from those with a meaning there? -/
def inAuthority (c : Char) : Bool :=
  c.isAlphanum || c.toNat == 39
    || ['!', '$', '&', '(', ')', '*', '+', ',', '-', '.', ';', '=', '_', '~'].contains c

/-- Is the character printed in ASCII, blanks excluded? -/
def isVisible (c : Char) : Bool := 0x21 ≤ c.toNat && c.toNat ≤ 0x7e

/-- May the character stand in a path? -/
def inPath (c : Char) : Bool := isVisible c && c.toNat != 96 && !(['<', '>'].contains c)

/-- May the character stand in a query? -/
def inQuery (c : Char) : Bool := isVisible c && !(['"', '<', '>'].contains c)

/-- The text after the scheme, and whether there was one; none if the scheme is too long. -/
def scheme? (cs : List Char) : Option (Bool × List Char) :=
  let name := cs.takeWhile inScheme
  match cs.drop name.length with
  | ':' :: '/' :: '/' :: rest => if name.length ≤ maxScheme then some (true, rest) else none
  | _ => some (false, cs)

/-- What has been seen of an authority. -/
structure Scan where
  colons : Nat := 0
  bracketed : Bool := false
  unbracketed : Bool := false
  percent : Bool := false
  deriving DecidableEq, Repr

/-- One more character of an authority. -/
def Scan.step (s : Scan) (c : Char) : Option Scan :=
  if c = ':' then if s.colons < maxColons then some { s with colons := s.colons + 1 } else none
  else if c = '[' then if s.percent || s.bracketed then none else some { s with bracketed := true }
  else if c = ']' then
    if s.bracketed && !s.unbracketed then
      some { s with unbracketed := true, colons := 0, percent := false }
    else none
  else if c = '@' then some { s with colons := 0, percent := false }
  else if c = '%' then some { s with percent := true }
  else if inAuthority c then some s else none

/-- Is the text an authority? -/
def isAuthority (cs : List Char) : Bool :=
  match cs.foldlM Scan.step {} with
  | some s => s.bracketed == s.unbracketed && s.colons ≤ 1 && !s.percent && cs.getLast? != some '@'
  | none => false

/-- Is the text a path with a query and a fragment, each of which may be absent? -/
def isPath (cs : List Char) : Bool :=
  let shown := cs.takeWhile (· != '#')
  let path := shown.takeWhile (· != '?')
  path.all inPath && (shown.drop path.length).all inQuery

/-- Is the url written as one, and does it name a host? -/
def isValid (url : String) : Bool :=
  url.utf8ByteSize ≤ maxSize
    && match scheme? url.toList with
      | none => false
      | some (hasScheme, cs) =>
        let authority := cs.takeWhile fun c => !(['/', '?', '#'].contains c)
        let rest := cs.drop authority.length
        isAuthority authority && !authority.isEmpty && url != "*"
          && if hasScheme then isPath rest else rest.isEmpty

end Tether.WebSocket.Address
