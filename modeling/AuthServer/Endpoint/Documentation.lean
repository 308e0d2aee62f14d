import AuthServer.Exchange

/-!
The pages that document the routes: a description for machines and a viewer for people. Which pages
there are and of what type is settled here; the pages themselves are not kept in this library.
-/

namespace AuthServer

structure DocumentationPage where
  name : String
  type : String
deriving DecidableEq, Repr

namespace DocumentationPage

def all : List DocumentationPage := [
  ⟨"index.html", "text/html"⟩,
  ⟨"oauth2-redirect.html", "text/html"⟩,
  ⟨"index.css", "text/css"⟩,
  ⟨"swagger-ui.css", "text/css"⟩,
  ⟨"swagger-ui.css.map", "application/json"⟩,
  ⟨"swagger-initializer.js", "text/javascript"⟩,
  ⟨"swagger-ui.js", "text/javascript"⟩,
  ⟨"swagger-ui.js.map", "application/json"⟩,
  ⟨"swagger-ui-bundle.js", "text/javascript"⟩,
  ⟨"swagger-ui-bundle.js.map", "application/json"⟩,
  ⟨"swagger-ui-es-bundle.js", "text/javascript"⟩,
  ⟨"swagger-ui-es-bundle.js.map", "application/json"⟩,
  ⟨"swagger-ui-es-bundle-core.js", "text/javascript"⟩,
  ⟨"swagger-ui-es-bundle-core.js.map", "application/json"⟩,
  ⟨"swagger-ui-standalone-preset.js", "text/javascript"⟩,
  ⟨"swagger-ui-standalone-preset.js.map", "application/json"⟩,
  ⟨"favicon-16x16.png", "image/png"⟩,
  ⟨"favicon-32x32.png", "image/png"⟩]

/-- The file under a name; slashes at the front do not count, and no name means the index. -/
def find? (name : String) : Option DocumentationPage :=
  let chars := name.toList.dropWhile (· == '/')
  let name := if chars.isEmpty then "index.html" else String.ofList chars
  all.find? (·.name == name)

end DocumentationPage

namespace Endpoint

def documentation : Handler := fun exchange state =>
  match exchange.params with
  | .error illFormed =>
      .respond (.ofText 400 s!"Invalid URL: {Exchange.illFormedParam illFormed}") state
  | .ok params =>
      match DocumentationPage.find? ((params.lookup "rest").getD "") with
      | some page => .respond (.ofBody 200 page.type "") state
      | none => .respond (.ofStatus 404) state

def documentationRedirect : Handler := fun _ state =>
  .respond ((Response.ofStatus 303).setHeader "location" "/docs/") state

def description : Handler := fun _ state =>
  .respond (.ofJson 200 "") state

end Endpoint

end AuthServer
