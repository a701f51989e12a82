/-!
The scripts that make shells ask the program for completions.
-/
namespace QueryPlayground.CommandLine

/-- The shells whose words can be completed. -/
inductive Shell where
  | bash
  | fish
  | zsh
  deriving DecidableEq, Repr

def Shell.all : List Shell := [.bash, .fish, .zsh]

def Shell.name : Shell → String
  | .bash => "bash"
  | .fish => "fish"
  | .zsh => "zsh"

def bashScript : List String := [
  "_dbplay_completion() \x7b",
  "    local IFS=$'\\n'",
  "    local response",
  "",
  "    response=$(env COMP_WORDS=\"$\x7bCOMP_WORDS[*]\x7d\" COMP_CWORD=$COMP_CWORD " ++
    "_DBPLAY_COMPLETE=bash_complete $1)",
  "",
  "    for completion in $response; do",
  "        IFS=',' read type value <<< \"$completion\"",
  "",
  "        if [[ $type == 'dir' ]]; then",
  "            COMPREPLY=()",
  "            compopt -o dirnames",
  "        elif [[ $type == 'file' ]]; then",
  "            COMPREPLY=()",
  "            compopt -o default",
  "        elif [[ $type == 'plain' ]]; then",
  "            COMPREPLY+=($value)",
  "        fi",
  "    done",
  "",
  "    return 0",
  "\x7d",
  "",
  "_dbplay_completion_setup() \x7b",
  "    complete -o nosort -F _dbplay_completion dbplay",
  "\x7d",
  "",
  "_dbplay_completion_setup;"]

def zshScript : List String := [
  "#compdef dbplay",
  "",
  "_dbplay_completion() \x7b",
  "    local -a completions",
  "    local -a completions_with_descriptions",
  "    local -a response",
  "    (( ! $+commands[dbplay] )) && return 1",
  "",
  "    response=(\"$\x7b(@f)$(env COMP_WORDS=\"$\x7bwords[*]\x7d\" COMP_CWORD=$((CURRENT-1)) " ++
    "_DBPLAY_COMPLETE=zsh_complete dbplay)\x7d\")",
  "",
  "    for type key descr in $\x7bresponse\x7d; do",
  "        if [[ \"$type\" == \"plain\" ]]; then",
  "            if [[ \"$descr\" == \"_\" ]]; then",
  "                completions+=(\"$key\")",
  "            else",
  "                completions_with_descriptions+=(\"$key\":\"$descr\")",
  "            fi",
  "        elif [[ \"$type\" == \"dir\" ]]; then",
  "            _path_files -/",
  "        elif [[ \"$type\" == \"file\" ]]; then",
  "            _path_files -f",
  "        fi",
  "    done",
  "",
  "    if [ -n \"$completions_with_descriptions\" ]; then",
  "        _describe -V unsorted completions_with_descriptions -U",
  "    fi",
  "",
  "    if [ -n \"$completions\" ]; then",
  "        compadd -U -V unsorted -a completions",
  "    fi",
  "\x7d",
  "",
  "if [[ $zsh_eval_context[-1] == loadautofunc ]]; then",
  "    # autoload from fpath, call function directly",
  "    _dbplay_completion \"$@\"",
  "else",
  "    # eval/source/. command, register function for later",
  "    compdef _dbplay_completion dbplay",
  "fi"]

def fishScript : List String := [
  "function _dbplay_completion;",
  "    set -l response (env _DBPLAY_COMPLETE=fish_complete COMP_WORDS=(commandline -cp) " ++
    "COMP_CWORD=(commandline -t) dbplay);",
  "",
  "    for completion in $response;",
  "        set -l metadata (string split \",\" $completion);",
  "",
  "        if test $metadata[1] = \"dir\";",
  "            __fish_complete_directories $metadata[2];",
  "        else if test $metadata[1] = \"file\";",
  "            __fish_complete_path $metadata[2];",
  "        else if test $metadata[1] = \"plain\";",
  "            echo $metadata[2];",
  "        end;",
  "    end;",
  "end;",
  "",
  "complete --no-files --command dbplay --arguments \"(_dbplay_completion)\";"]

/-- The lines of a shell's script. -/
def Shell.script : Shell → List String
  | .bash => bashScript
  | .fish => fishScript
  | .zsh => zshScript

/-- The text of a shell's script. -/
def Shell.scriptText (shell : Shell) : String := String.join (shell.script.map (· ++ "\n"))

end QueryPlayground.CommandLine
