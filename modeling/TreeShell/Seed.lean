import TreeShell.Tree.Edit

namespace TreeShell.Seed

def directories : List Path :=
  ["", "src", "src/components", "src/services", "public", "node_modules"]

def packageFile : String :=
  Text.join "\n" [
    "\x7b",
    "  \"name\": \"third\",",
    "  \"version\": \"1.0.0\",",
    "  \"main\": \"index.js\",",
    "  \"scripts\": \x7b",
    "    \"start\": \"react-scripts start\",",
    "    \"build\": \"react-scripts build\",",
    "    \"test\": \"react-scripts test\",",
    "    \"eject\": \"react-scripts eject\"",
    "  \x7d,",
    "  \"description\": \"Web interface with Claude chat, file viewer, and terminal\",",
    "  \"dependencies\": \x7b",
    "    \"react\": \"^18.2.0\",",
    "    \"react-dom\": \"^18.2.0\",",
    "    \"react-scripts\": \"^5.0.1\",",
    "    \"styled-components\": \"^6.1.1\",",
    "    \"xterm\": \"^5.3.0\",",
    "    \"xterm-addon-fit\": \"^0.8.0\",",
    "    \"axios\": \"^1.6.0\"",
    "  \x7d",
    "\x7d"]

def readme : String :=
  Text.join "\n" [
    "# Claude Web Interface",
    "",
    "A web interface application with three panels for interacting with Claude:",
    "",
    "- **Left Panel**: Chat interface for conversing with Claude",
    "- **Upper Right Panel**: File viewer for browsing local repository files",
    "- **Bottom Right Panel**: Terminal for running commands (gh, npm, etc.)"]

def entryPoint : String :=
  Text.join "\n" [
    "import React from 'react';",
    "import ReactDOM from 'react-dom/client';",
    "import App from './App';",
    "import './index.css';",
    "",
    "const root = ReactDOM.createRoot(document.getElementById('root'));",
    "root.render(",
    "  <React.StrictMode>",
    "    <App />",
    "  </React.StrictMode>",
    ");"]

def appComponent : String :=
  Text.join "\n" [
    "import React from 'react';",
    "import styled from 'styled-components';",
    "import ChatWindow from './components/ChatWindow';",
    "import FileViewer from './components/FileViewer';",
    "import Terminal from './components/Terminal';",
    "",
    "function App() \x7b",
    "  return (",
    "    <AppContainer>",
    "      <ChatContainer>",
    "        <ChatWindow />",
    "      </ChatContainer>",
    "      <FileViewerContainer>",
    "        <FileViewer />",
    "      </FileViewerContainer>",
    "      <TerminalContainer>",
    "        <Terminal />",
    "      </TerminalContainer>",
    "    </AppContainer>",
    "  );",
    "\x7d",
    "",
    "export default App;"]

def styleSheet : String :=
  Text.join "\n" [
    "body \x7b",
    "  margin: 0;",
    "  font-family: -apple-system, BlinkMacSystemFont, 'Segoe UI', 'Roboto', 'Oxygen',",
    "    'Ubuntu', 'Cantarell', 'Fira Sans', 'Droid Sans', 'Helvetica Neue',",
    "    sans-serif;",
    "  -webkit-font-smoothing: antialiased;",
    "  -moz-osx-font-smoothing: grayscale;",
    "\x7d"]

def chatWindow : String :=
  Text.join "\n" [
    "import React from 'react';",
    "import styled from 'styled-components';",
    "",
    "// Chat window component implementation",
    "export default function ChatWindow() \x7b",
    "  return <div>Chat Window</div>;",
    "\x7d"]

def fileViewer : String :=
  Text.join "\n" [
    "import React from 'react';",
    "import styled from 'styled-components';",
    "",
    "// File viewer component implementation",
    "export default function FileViewer() \x7b",
    "  return <div>File Viewer</div>;",
    "\x7d"]

def terminalPanel : String :=
  Text.join "\n" [
    "import React from 'react';",
    "import styled from 'styled-components';",
    "",
    "// Terminal component implementation",
    "export default function Terminal() \x7b",
    "  return <div>Terminal</div>;",
    "\x7d"]

def fileService : String :=
  "// File service implementation"

def terminalService : String :=
  "// Terminal service implementation"

def page : String :=
  Text.join "\n" [
    "<!DOCTYPE html>",
    "<html lang=\"en\">",
    "  <head>",
    "    <meta charset=\"utf-8\" />",
    "    <meta name=\"viewport\" content=\"width=device-width, initial-scale=1\" />",
    "    <title>Claude Web Interface</title>",
    "  </head>",
    "  <body>",
    "    <noscript>You need to enable JavaScript to run this app.</noscript>",
    "    <div id=\"root\"></div>",
    "  </body>",
    "</html>"]

def files : OrderedMap Path String := .ofList [
  ("package.json", packageFile),
  ("README.md", readme),
  ("src/index.js", entryPoint),
  ("src/App.js", appComponent),
  ("src/index.css", styleSheet),
  ("src/components/ChatWindow.js", chatWindow),
  ("src/components/FileViewer.js", fileViewer),
  ("src/components/Terminal.js", terminalPanel),
  ("src/services/fileService.js", fileService),
  ("src/services/terminalService.js", terminalService),
  ("public/index.html", page)]

def tree : Tree := ⟨directories, files⟩

def recentFiles : List Entry :=
  ["src/components/FileViewer.js", "src/App.js", "src/index.js", "package.json"].map
    (Entry.ofPath .file)

end TreeShell.Seed
