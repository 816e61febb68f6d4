import ContainerClients.Package

/-!
# Bundled client packages

The library brings clients for eight languages.  Each has a package of its own below
`lsp_docker.clients`.

* `bundledClients` — the clients of each package.
* `bundledNames` — the short names of the eight packages.
* `fullName` — the full name of a package that may be given by its short name.
-/

namespace ContainerClients

/-- What the full names of bundled packages start with. -/
def bundledRoot : String := "lsp_docker.clients."

/-- A client of a server on the host, by the words of its command. -/
def bundledClient (id : String) (command extensions : List String) (priority : Int) : Client :=
  .onHost (.text id) extensions command (.whole priority)

/-- **The bundled packages** (`DEFAULT_CLIENT_PACKAGES`): short names and clients. -/
def bundledClients : List (String × List Client) :=
  [("bash", [bundledClient "bash-ls" ["bash-language-server", "start"] [".sh", ".bash"] (-1)]),
   ("clangd",
    [bundledClient "clangd" ["clangd"]
      [".c", ".h", ".cc", ".cpp", ".cxx", ".hh", ".hpp", ".hxx"] (-1)]),
   ("css",
    [bundledClient "css-ls" ["css-languageserver", "--stdio"]
      [".css", ".scss", ".sass", ".less"] (-1)]),
   ("dockerfile",
    [bundledClient "dockerfile-ls" ["docker-langserver", "--stdio"]
      ["dockerfile", ".dockerfile"] (-1)]),
   ("go", [bundledClient "gopls" ["gopls"] [".go"] (-1)]),
   ("html",
    [bundledClient "html-ls" ["html-languageserver", "--stdio"] [".html", ".htm"] (-1)]),
   ("python",
    [bundledClient "pyls" ["pyls"] [".py", ".pyi"] (-1),
     bundledClient "pylsp" ["pylsp"] [".py", ".pyi"] (-2)]),
   ("typescript",
    [bundledClient "ts-ls" ["typescript-language-server", "--stdio"]
      [".ts", ".tsx", ".js", ".jsx", ".mjs", ".cjs"] (-1)])]

/-- The short names of the bundled packages. -/
def bundledNames : List String := bundledClients.map (·.1)

/-- The full name of a package (`_module_name`): a name without a dot is that of a bundled
package. -/
def fullName (package : String) : String :=
  if package.toList.contains '.' then package else bundledRoot ++ package

end ContainerClients
