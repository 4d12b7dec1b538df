/-! Uniform resource locators in their normal form. -/

namespace LivePipeline

/-- A locator whose parts are written as they stand in its text. A locator without a host may have
any text as its path; otherwise the path is empty or starts with a slash. -/
structure Url where
  scheme : String
  /-- User name and password, each with the marks that divide them from what follows. -/
  credentials : String
  host : Option String
  port : Option Nat
  path : String
  query : Option String
  fragment : Option String

namespace Url

/-- The part that names the server. Without a host, a path that starts with two slashes is kept
apart from it by a dot. -/
def authority (url : Url) : String :=
  match url.host with
  | some host =>
    "//" ++ url.credentials ++ host
      ++ (match url.port with
        | some port => ":" ++ toString port
        | none => "")
  | none => if url.path.startsWith "//" then "/." else ""

/-- The whole text. -/
def href (url : Url) : String :=
  url.scheme ++ ":" ++ url.authority ++ url.path
    ++ (match url.query with
      | some query => "?" ++ query
      | none => "")
    ++ (match url.fragment with
      | some fragment => "#" ++ fragment
      | none => "")

/-- Host and port as they are shown; empty without a host. -/
def hostText (url : Url) : String :=
  let host := url.host.getD ""
  match url.port with
  | some port => host ++ ":" ++ toString port
  | none => host

end Url

end LivePipeline
