import HaxePrompt.Text.Basic

/-! # The script of the runner

The evaluator is a Node.js process that runs this script.  It reads requests line by line, runs
the code of each in one context that lasts as long as the process, and answers by a report. -/

namespace HaxePrompt

def runnerScriptLines : List String := [
  "'use strict';",
  "",
  "// Long-lived evaluation server. Every line of stdin is a JSON request",
  "// `\x7b\"code\": \"...\"\x7d` run in one shared vm context, so bindings survive from one",
  "// request to the next. Each request is answered by a single report line on",
  "// stdout, tagged with REPORT so it can be told apart from the program's output.",
  "// Usage: node runner.js <working directory> [--colors]",
  "",
  "const path = require('path');",
  "const readline = require('readline');",
  "const util = require('util');",
  "const vm = require('vm');",
  "const \x7b createRequire \x7d = require('module');",
  "",
  "const REPORT = '\\u0001hxrepl-report:';",
  "",
  "const [pwd, ...flags] = process.argv.slice(2);",
  "const colors = flags.includes('--colors');",
  "const root = path.resolve(pwd || process.cwd());",
  "const fromRoot = createRequire(path.join(root, '__hxrepl__.js'));",
  "",
  "// Modules of the working directory win, default resolution comes next",
  "function sandboxRequire(request) \x7b",
  "    try \x7b",
  "        return fromRoot(request);",
  "    \x7d catch (err) \x7b",
  "        if (err && err.code === 'MODULE_NOT_FOUND') \x7b",
  "            return require(request);",
  "        \x7d",
  "        throw err;",
  "    \x7d",
  "\x7d",
  "",
  "function messageOf(err) \x7b",
  "    return err && err.message !== undefined ? String(err.message) : String(err);",
  "\x7d",
  "",
  "function report(payload) \x7b",
  "    process.stdout.write(REPORT + JSON.stringify(payload) + '\\n');",
  "\x7d",
  "",
  "const sandbox = \x7b",
  "    console,",
  "    process,",
  "    Buffer,",
  "    require: sandboxRequire,",
  "    setTimeout,",
  "    clearTimeout,",
  "    setInterval,",
  "    clearInterval,",
  "    setImmediate,",
  "    clearImmediate,",
  "    __dirname: root,",
  "    __filename: path.join(root, 'repl.js'),",
  "\x7d;",
  "sandbox.module = \x7b exports: \x7b\x7d \x7d;",
  "sandbox.exports = sandbox.module.exports;",
  "sandbox.global = sandbox;",
  "const context = vm.createContext(sandbox);",
  "",
  "// Errors thrown from callbacks must not take the session down",
  "process.on('uncaughtException', (err) => \x7b",
  "    console.error('Eval:', messageOf(err));",
  "\x7d);",
  "",
  "const input = readline.createInterface(\x7b input: process.stdin, terminal: false \x7d);",
  "",
  "input.on('line', (line) => \x7b",
  "    let request;",
  "    try \x7b",
  "        request = JSON.parse(line);",
  "    \x7d catch (err) \x7b",
  "        report(\x7b ok: false, message: `malformed request: $\x7bmessageOf(err)\x7d` \x7d);",
  "        return;",
  "    \x7d",
  "",
  "    try \x7b",
  "        const value = vm.runInContext(request.code, context, \x7b filename: 'repl.js' \x7d);",
  "",
  "        report(\x7b",
  "            ok: true,",
  "            value: value === undefined ? null : util.inspect(value, \x7b colors \x7d),",
  "        \x7d);",
  "    \x7d catch (err) \x7b",
  "        report(\x7b ok: false, message: messageOf(err) \x7d);",
  "    \x7d",
  "\x7d);",
  "",
  "input.on('close', () => process.exit(0));"]

/-- The script of the runner. -/
def runnerScript : Text := Text.unlines (runnerScriptLines.map String.toList)

end HaxePrompt
