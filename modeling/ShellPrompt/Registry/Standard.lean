import ShellPrompt.Registry

/-!
The modules that every prompt knows: those with a layout of their own, and the names of the others.
-/

namespace ShellPrompt.Definition

def texts (pairs : List (String × String)) : List (String × Value) :=
  pairs.map fun pair => (pair.1, .text pair.2)

def directory : Definition where
  name := "directory"
  description := "Current working directory"
  defaults := .ofList (
    texts [
      ("format", "[$path]($style)[$read_only]($read_only_style) "),
      ("style", "cyan bold"),
      ("read_only", "🔒"),
      ("read_only_style", "red")] ++
    [("truncation_length", .integer 3)] ++
    texts [
      ("truncation_symbol", "…/")])
  references := ["$path", "$read_only"]

def gitBranch : Definition where
  name := "git_branch"
  description := "Active git branch"
  defaults := .ofList (
    texts [
      ("format", "on [$symbol$branch]($style) "),
      ("symbol", " "),
      ("style", "purple bold")])
  references := ["$symbol", "$branch"]

def gitStatus : Definition where
  name := "git_status"
  description := "Git status symbols"
  defaults := .ofList (
    texts [
      ("format", "([$all_status$ahead_behind]($style) )"),
      ("style", "red bold"),
      ("conflicted", "🏳"),
      ("ahead", "⇡"),
      ("behind", "⇣"),
      ("diverged", "⇕"),
      ("untracked", "?"),
      ("stashed", "$"),
      ("modified", "!"),
      ("staged", "+"),
      ("renamed", "»"),
      ("deleted", "✘")])
  references := ["$all_status", "$ahead_behind", "$conflicted", "$ahead", "$behind"]

def nodejs : Definition where
  name := "nodejs"
  description := "Node.js version"
  defaults := .ofList (
    texts [
      ("format", "via [$symbol($version)]($style) "),
      ("symbol", " "),
      ("style", "green bold")])
  references := ["$symbol", "$version"]

def rust : Definition where
  name := "rust"
  description := "Rust version"
  defaults := .ofList (
    texts [
      ("format", "via [$symbol($version)]($style) "),
      ("symbol", " "),
      ("style", "red bold")])
  references := ["$symbol", "$version"]

def python : Definition where
  name := "python"
  description := "Python version"
  defaults := .ofList (
    texts [
      ("format", "via [$symbol$pyenv_prefix($version)(\\($virtualenv\\))]($style) "),
      ("symbol", "🐍 "),
      ("style", "yellow bold")])
  references := ["$symbol", "$version", "$virtualenv", "$pyenv_prefix"]

def golang : Definition where
  name := "golang"
  description := "Go version"
  defaults := .ofList (
    texts [
      ("format", "via [$symbol($version )]($style)"),
      ("symbol", "🐹 "),
      ("style", "cyan bold")])
  references := ["$symbol", "$version"]

def packageModule : Definition where
  name := "package"
  description := "Current project version from package metadata"
  defaults := .ofList (
    texts [
      ("format", "is [$symbol$version]($style) "),
      ("symbol", "📦 "),
      ("style", "orange bold")])
  references := ["$symbol", "$version"]

def dockerContext : Definition where
  name := "docker_context"
  description := "Docker context"
  defaults := .ofList (
    texts [
      ("format", "via [$symbol$context]($style) "),
      ("symbol", " "),
      ("style", "blue bold")])
  references := ["$symbol", "$context"]

def aws : Definition where
  name := "aws"
  description := "AWS profile"
  defaults := .ofList (
    texts [
      ("format", "on [$symbol($profile )(\\($region\\) )]($style)"),
      ("symbol", "☁\ufe0f  "),
      ("style", "orange bold")])
  references := ["$symbol", "$profile", "$region"]

def cmdDuration : Definition where
  name := "cmd_duration"
  description := "Command duration"
  defaults := .ofList (
    texts [
      ("format", "took [$duration]($style) "),
      ("style", "yellow bold")])
  references := ["$duration"]

def clock : Definition where
  name := "time"
  description := "Current time"
  defaults := .ofList (
    texts [
      ("format", "at [$time]($style) "),
      ("style", "yellow bold")])
  references := ["$time"]

def lineBreak : Definition where
  name := "line_break"
  description := "Inserts a line break"

def character : Definition where
  name := "character"
  description := "The prompt character (usually at the end)"
  defaults := .ofList (
    texts [
      ("format", "$symbol "),
      ("success_symbol", "[❯](green bold)"),
      ("error_symbol", "[❯](red bold)"),
      ("vicmd_symbol", "[❮](green bold)")])
  references := ["$symbol"]

def detailed : List Definition :=
  [directory, gitBranch, gitStatus, nodejs, rust, python, golang, packageModule, dockerContext,
   aws, cmdDuration, clock, lineBreak, character]

/-- The names of all modules, in alphabetical order. -/
def moduleNames : List String :=
  ["aws", "azure", "battery", "buf", "bun", "c", "character", "cmake", "cmd_duration", "cobol",
   "conda", "container", "crystal", "daml", "dart", "deno", "directory", "direnv",
   "docker_context", "dotnet", "elixir", "elm", "env_var", "erlang", "fennel", "fill",
   "fossil_branch", "fossil_metrics", "gcloud", "git_branch", "git_commit", "git_metrics",
   "git_state", "git_status", "golang", "gradle", "guix_shell", "haskell", "haxe", "helm",
   "hostname", "java", "jobs", "julia", "kotlin", "kubernetes", "line_break", "localip", "lua",
   "memory_usage", "meson", "nats", "nim", "nix_shell", "nodejs", "ocaml", "opa", "openstack",
   "os", "package", "perl", "php", "pijul_channel", "pulumi", "purescript", "python", "raku",
   "red", "rlang", "ruby", "rust", "scala", "shell", "shlvl", "singularity", "solidity", "spack",
   "status", "sudo", "swift", "terraform", "time", "typst", "username", "vagrant", "vcsh",
   "vlang", "zig"]

def plain (name : String) : Definition where
  name := name
  description := "Configures the '" ++ name ++ "' module for your Starship prompt."

end ShellPrompt.Definition

namespace ShellPrompt

/-- The registry of all known modules, the detailed ones first. -/
def Registry.standard : Registry :=
  let detailed := Registry.ofList Definition.detailed
  let others := Definition.moduleNames.filter fun name => !detailed.contains name
  (others.map Definition.plain).foldl Registry.register detailed

end ShellPrompt
