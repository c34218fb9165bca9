import GraphConsole.Json.Decode

/-! Starter projects. -/

namespace GraphConsole.Registry

inductive Language
  | go
  | java
  | javascript
  | kotlin
  | python
  | rust
  | typescript
deriving DecidableEq, Repr

namespace Language

def name : Language → String
  | .go => "go"
  | .java => "java"
  | .javascript => "javascript"
  | .kotlin => "kotlin"
  | .python => "python"
  | .rust => "rust"
  | .typescript => "typescript"

def all : List Language :=
  [.go, .java, .javascript, .kotlin, .python, .rust, .typescript]

def ofName? (name : String) : Option Language :=
  all.find? fun language => language.name == name

theorem mem_all (language : Language) : language ∈ all := by
  cases language <;> decide

end Language

structure Template where
  id : String
  repository : String
  title : String
  language : Language
deriving DecidableEq, Repr

namespace Template

def ofJson : Json → Json.Checked Template :=
  Json.record fun fields =>
    Template.mk <$> Json.required "id" Json.text fields
      <*> Json.required "git_url" Json.text fields
      <*> Json.required "display" Json.text fields
      <*> Json.required "language"
        (Json.oneOf (Language.all.map fun language => (language.name, language))) fields

def toJson (template : Template) : Json :=
  .object [("id", .string template.id), ("git_url", .string template.repository),
    ("display", .string template.title), ("language", .string template.language.name)]

def catalog : List Template := [
  ⟨"subgraph-go-gqlgen",
    "https://github.com/apollographql/subgraph-template-go-gqlgen-boilerplate",
    "Go (gqlgen)", .go⟩,
  ⟨"subgraph-java-spring-graphql",
    "https://github.com/apollographql/subgraph-template-java-spring-graphql-boilerplate",
    "Java (spring-graphql)", .java⟩,
  ⟨"subgraph-javascript-apollo-server",
    "https://github.com/apollographql/subgraph-template-javascript-apollo-server-boilerplate",
    "JavaScript (Apollo Server)", .javascript⟩,
  ⟨"subgraph-python-strawberry-fastapi",
    "https://github.com/strawberry-graphql/subgraph-template-strawberry-fastapi",
    "Python (Strawberry with FastAPI)", .python⟩,
  ⟨"subgraph-python-ariadne-fastapi",
    "https://github.com/mirumee/subgraph-template-ariadne-fastapi",
    "Python (Ariadne with FastAPI)", .python⟩,
  ⟨"subgraph-rust-async-graphql",
    "https://github.com/apollographql/subgraph-template-rust-async-graphql",
    "Rust (async-graphql)", .rust⟩,
  ⟨"subgraph-typescript-apollo-server",
    "https://github.com/apollographql/subgraph-template-typescript-apollo-server-boilerplate",
    "TypeScript (Apollo Server)", .typescript⟩]

def find? (id : String) : Option Template :=
  catalog.find? fun template => template.id == id

def forLanguage : Option Language → List Template
  | none => catalog
  | some language => catalog.filter fun template => template.language = language

end Template

end GraphConsole.Registry
